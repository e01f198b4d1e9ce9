/-
  FormLogic.Remote.Upload

  Replies to uploads: where the uploaded file is.

  Specification, section 4.8 (upload replies).
-/

import FormLogic.Json.Shape

namespace FormLogic

/-- The reply to an upload. -/
structure UploadReply where
  url : String
deriving DecidableEq, Repr

namespace UploadReply

/-- How a reply is read. -/
def shape : Json.RecordShape (Option String) where
  name := "UploadResponse"
  fields := ["url"]
  read d name v :=
    match name with
    | "url" => v.asString.map some
    | _ => .ok d

/-- The reply of a draft. -/
def finish (d : Option String) : Except String UploadReply :=
  match d with
  | some url => .ok ⟨url⟩
  | none => .error "url"

def decode : Json → Shaped UploadReply := shape.decode none finish

def encode (r : UploadReply) : Json := .object [("url", .string r.url)]

/-- The wording of the error for a reply that is none. -/
def malformed (e : ShapeError) : String := "upload response is malformed: " ++ e.message

end UploadReply
end FormLogic
