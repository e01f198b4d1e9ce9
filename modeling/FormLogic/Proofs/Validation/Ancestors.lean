/-
  FormLogic.Proofs.Validation.Ancestors

  The object fields above a field.

  A descent to a field passes every object field above it: what that field
  holds is where the descent goes on (`Form.ComesTo.through`).  So a field is
  reached exactly if each object field that is reached above it has a value
  with members, or none.

    * `Form.opens_of_reaches` — an object field above a field that is reached
      opens its members.
    * `Form.reaches_of_finds` — a field that is found is reached if all of
      these do.
-/

import FormLogic.Proofs.Validation.Scope

namespace FormLogic

variable [PatternReader] {overrides : MessageOverrides}

/-- A descent past an object field goes on in the members of the field's value. -/
theorem Descends.through {opens opens' : Option Json → Prop} {fields : Field → Prop}
    {scope : Json} {before after : List String} {f g : Field} {value w : Option Json}
    {nodes : List Node} (hs : ScopeOf overrides fields nodes)
    (hg : Descends opens' fields scope before g w) (hk : g.info.kind = .object)
    (ha : after ≠ []) (h : Descends opens fields scope (before ++ after) f value) :
    opens w ∧ Descends opens (· ∈ g.fields) (w.getD .null) after f value := by
  induction hg generalizing nodes with
  | here hf => exact h.member_inv hs.distinctFields hf hk ha
  | member hf hk' _ hrest ih =>
    obtain ⟨n, _, hc⟩ := hs.node_of_field _ hf
    obtain ⟨-, h⟩ := h.member_inv hs.distinctFields hf hk'
      (List.append_ne_nil_of_right_ne_nil _ ha)
    exact ih (hc.members hk').2 hk h
  | item hf hk' ht hvalue hentry _ ih =>
    obtain ⟨n, _, hc⟩ := hs.node_of_field _ hf
    obtain ⟨-, items, ht', hchildren⟩ := hc.entries hk'
    obtain rfl := Option.some.inj (ht'.symm.trans ht)
    obtain ⟨items', entries', i', entry', ht'', hi, hvalue', hentry', h⟩ :=
      h.item_inv hs.distinctFields hf hk'
    obtain rfl := Option.some.inj (ht''.symm.trans ht')
    obtain rfl := Json.array.inj (Option.some.inj (hvalue'.symm.trans hvalue))
    -- the same segment is the same position and so the same entry
    have hnumber := congrArg Path.number? hi
    rw [Path.number?_toString, Path.number?_toString] at hnumber
    obtain rfl := Option.some.inj hnumber
    obtain rfl := Option.some.inj (hentry'.symm.trans hentry)
    exact ih hchildren hk h

namespace Form

variable {opens opens' : Option Json → Prop} {form : Form} {v : FormValidator} {values : Json}
  {path q : String} {f g : Field} {value w : Option Json}

/-- A form that comes to a field passes each object field above it on the way. -/
theorem ComesTo.through (hc : form.compile overrides = .ok v) (hn : form.hasPlainNames = true)
    (h : form.ComesTo opens values path f value) (hg : form.ComesTo opens' values q g w)
    (hk : g.info.kind = .object) (ha : Path.Above q path) :
    opens w ∧ ∃ rest, Descends opens (· ∈ g.fields) (w.getD .null) rest f value := by
  obtain ⟨segments, hd, rfl⟩ := h
  obtain ⟨before, hb, rfl⟩ := hg
  have hplain := plainNames_declares hn
  obtain ⟨after, hafter, rfl⟩ := (Path.above_ofSegments_iff hb.ne_nil (hb.isSegment hplain)
    (hd.isSegment hplain)).mp ha
  obtain ⟨ho, hrest⟩ := Descends.through (compile_scopeOf hc) hb hk hafter hd
  exact ⟨ho, after, hrest⟩

/-- Above a field that is reached, every object field opens its members. -/
theorem opens_of_reaches (hc : form.compile overrides = .ok v) (hn : form.hasPlainNames = true)
    (h : form.Reaches values path f value) (hg : form.Reaches values q g w)
    (hk : g.info.kind = .object) (ha : Path.Above q path) : OpensMembers w :=
  (ComesTo.through hc hn h hg hk ha).1

omit [PatternReader] in
/-- A field that is found is reached if every object field above it opens its members. -/
theorem reaches_of_finds (hn : form.hasPlainNames = true) (h : form.Finds values path f value)
    (hopens : ∀ q g w, form.Reaches values q g w → g.info.kind = .object → Path.Above q path →
      OpensMembers w) : form.Reaches values path f value := by
  obtain ⟨segments, hd, rfl⟩ := h
  have hplain := plainNames_declares hn
  refine ⟨segments, hd.strengthen ?_, rfl⟩
  intro before after g w hsegments ha hg hk
  refine hopens (Path.ofSegments before) g w ⟨before, hg, rfl⟩ hk ?_
  exact (Path.above_ofSegments_iff hg.ne_nil (hg.isSegment hplain) (hd.isSegment hplain)).mpr
    ⟨after, ha, hsegments⟩

end Form
end FormLogic
