/-
  FormLogic.Remote.Ticket

  Tickets for requests of which only the latest counts: each request takes a
  ticket, and a reply is used only while its ticket is the latest.

  Specification, section 4.8: the last write wins.
-/

namespace FormLogic

/-- The latest ticket that was issued; none is zero. -/
structure TicketCounter where
  latest : Nat := 0
deriving DecidableEq, Repr

namespace TicketCounter

/-- Tickets are counted up to this. -/
def limit : Nat := Nat.pow 2 64

/-- The next ticket, and the counter after it. -/
def issue (c : TicketCounter) : Nat × TicketCounter :=
  let next := (c.latest + 1) % limit
  (next, ⟨next⟩)

/-- Whether a ticket is the latest one. -/
def isCurrent (c : TicketCounter) (ticket : Nat) : Bool := c.latest == ticket

end TicketCounter
end FormLogic
