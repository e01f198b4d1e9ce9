/-
  FormLogic.Proofs.Remote.Tickets

  The tickets of one counter, under any calls of any clients.

  A call is one step of the counter, so that the calls of all clients come to
  it one after the other; nothing is assumed of their order, nor of what
  clients know of each other.  A history lists the calls with their answers.
  The counter holds the count of the tickets issued, which is also the last
  of them, as long as it does not come to its limit (`Runs.counted`).

    * `Step`, `Runs` — one call, and the calls of a history.
    * `exists_runs` — calls can be made in any order.
    * `only_latest_current` — of the tickets issued, the latest is current and
      no other.
-/

import FormLogic.Remote.Ticket

namespace FormLogic
namespace TicketCounter

/-! ## Histories -/

/-- What a client can ask the counter for. -/
inductive Call where
  | issue
  | isCurrent (ticket : Nat)
deriving DecidableEq, Repr

/-- A call of a client, with its answer. -/
inductive Event (Client : Type) where
  | issued (client : Client) (ticket : Nat)
  | asked (client : Client) (ticket : Nat) (current : Bool)

variable {Client : Type}

/-- The call that was answered, and who made it. -/
def Event.call : Event Client → Client × Call
  | .issued client _ => (client, .issue)
  | .asked client ticket _ => (client, .isCurrent ticket)

/-- The ticket that was issued, if one was. -/
def Event.ticket? : Event Client → Option Nat
  | .issued _ ticket => some ticket
  | .asked _ _ _ => none

/-- The tickets that were issued, in the order in which they were. -/
def tickets (history : List (Event Client)) : List Nat := history.filterMap Event.ticket?

/-- One call: the counter answers and goes on. -/
inductive Step : TicketCounter → Event Client → TicketCounter → Prop
  | issue (c : TicketCounter) (client : Client) :
      Step c (.issued client c.issue.1) c.issue.2
  | ask (c : TicketCounter) (client : Client) (ticket : Nat) :
      Step c (.asked client ticket (c.isCurrent ticket)) c

/-- The calls of a history, one after the other. -/
inductive Runs : TicketCounter → List (Event Client) → TicketCounter → Prop
  | nil (c : TicketCounter) : Runs c [] c
  | cons {c d last : TicketCounter} {e : Event Client} {history : List (Event Client)} :
      Step c e d → Runs d history last → Runs c (e :: history) last

variable {c d last : TicketCounter} {e : Event Client}
  {history before after : List (Event Client)}

@[simp] theorem tickets_nil : tickets ([] : List (Event Client)) = [] := rfl

@[simp] theorem tickets_issued_cons (client : Client) (ticket : Nat) :
    tickets (.issued client ticket :: history) = ticket :: tickets history := rfl

@[simp] theorem tickets_asked_cons (client : Client) (ticket : Nat) (current : Bool) :
    tickets (.asked client ticket current :: history) = tickets history := rfl

@[simp] theorem tickets_append :
    tickets (before ++ after) = tickets before ++ tickets after :=
  List.filterMap_append

/-- Any calls, by any clients and in any order, are answered. -/
theorem exists_runs (c : TicketCounter) (calls : List (Client × Call)) :
    ∃ history last, Runs c history last ∧ history.map Event.call = calls := by
  induction calls generalizing c with
  | nil => exact ⟨[], c, .nil c, rfl⟩
  | cons call calls ih =>
    obtain ⟨client, call⟩ := call
    cases call with
    | issue =>
      obtain ⟨history, last, hruns, hcalls⟩ := ih c.issue.2
      exact ⟨_, last, .cons (.issue c client) hruns, by rw [List.map_cons, hcalls]; rfl⟩
    | isCurrent ticket =>
      obtain ⟨history, last, hruns, hcalls⟩ := ih c
      exact ⟨_, last, .cons (.ask c client ticket) hruns, by rw [List.map_cons, hcalls]; rfl⟩

/-- At every point of a history the counter has come through the calls before it, and goes on with
those behind it. -/
theorem runs_append_iff :
    Runs c (before ++ after) last ↔ ∃ d, Runs c before d ∧ Runs d after last := by
  induction before generalizing c with
  | nil =>
    constructor
    · exact fun h => ⟨c, .nil c, h⟩
    · rintro ⟨d, hnil, h⟩
      cases hnil
      exact h
  | cons e before ih =>
    constructor
    · intro h
      cases h with
      | cons hstep hrest =>
        obtain ⟨d, hbefore, hafter⟩ := ih.mp hrest
        exact ⟨d, .cons hstep hbefore, hafter⟩
    · rintro ⟨d, hbefore, hafter⟩
      cases hbefore with
      | cons hstep hrest => exact .cons hstep (ih.mpr ⟨d, hrest, hafter⟩)

/-! ## Counting -/

/-- Below the limit the next ticket is the next number. -/
theorem issue_of_lt (h : c.latest + 1 < limit) : c.issue = (c.latest + 1, ⟨c.latest + 1⟩) := by
  simp only [issue, Nat.mod_eq_of_lt h]

/-- A call issues the next number or none, and the counter holds the last one issued. -/
theorem Step.counted (h : Step c e d) (hlt : c.latest + (tickets [e]).length < limit) :
    tickets [e] = List.range' (c.latest + 1) (tickets [e]).length
      ∧ d.latest = c.latest + (tickets [e]).length := by
  cases h with
  | issue client =>
    have hnext : c.latest + 1 < limit := hlt
    rw [issue_of_lt hnext]
    exact ⟨rfl, rfl⟩
  | ask client ticket => exact ⟨rfl, rfl⟩

/-- The tickets of a history are the numbers that follow the one in the counter, and the counter
ends with the last of them. -/
theorem Runs.counted (h : Runs c history d)
    (hlt : c.latest + (tickets history).length < limit) :
    tickets history = List.range' (c.latest + 1) (tickets history).length
      ∧ d.latest = c.latest + (tickets history).length := by
  induction h with
  | nil c => exact ⟨rfl, rfl⟩
  | @cons c d last e history hstep hrest ih =>
    have hsplit : tickets (e :: history) = tickets [e] ++ tickets history := by
      rw [← tickets_append, List.singleton_append]
    rw [hsplit, List.length_append] at hlt ⊢
    obtain ⟨hfirst, hd⟩ := hstep.counted (by omega)
    obtain ⟨hlater, hlast⟩ := ih (by omega)
    constructor
    · -- the later tickets begin where the counter stands after the first call
      rw [← List.range'_append_1, ← hfirst]
      congr 1
      rw [hlater, hd, List.length_range']
      congr 1
      omega
    · omega

/-- At the end of a history of a new counter, that of its tickets is current which was issued
last. -/
theorem Runs.isCurrent_iff (h : Runs {} history c) (hlt : (tickets history).length < limit)
    {ticket : Nat} (hticket : ticket ∈ tickets history) :
    c.isCurrent ticket = true ↔ (tickets history).getLast? = some ticket := by
  obtain ⟨hall, hlatest⟩ := h.counted (by simpa using hlt)
  have hpos : (tickets history).length ≠ 0 :=
    fun h0 => List.ne_nil_of_mem hticket (List.eq_nil_of_length_eq_zero h0)
  have hlast : (tickets history).getLast? = some c.latest := by
    rw [hall, List.getLast?_range', if_neg hpos, hlatest]
    simp
  rw [hlast, isCurrent, beq_iff_eq, Option.some.injEq]

/-- A ticket that is not current any more was issued before the latest one. -/
theorem Runs.lt_latest (h : Runs {} history c) (hlt : (tickets history).length < limit)
    {ticket : Nat} (hticket : ticket ∈ tickets history) (hstale : c.isCurrent ticket = false) :
    ticket < c.latest := by
  obtain ⟨hall, hlatest⟩ := h.counted (by simpa using hlt)
  rw [hall, List.mem_range'_1] at hticket
  have hne : c.latest ≠ ticket := by simpa [isCurrent] using hstale
  simp only [Nat.zero_add] at hticket hlatest
  omega

/-! ## Main statement -/

/-- Under any calls of any clients that issue fewer tickets than there are, the tickets are issued
in strictly ascending order.  At every point of the history, of the tickets issued so far the
latest is current and no other, clients that ask are told so, and a ticket that is not current at
some point is not current at any later one. -/
theorem only_latest_current (h : Runs {} history last)
    (hlt : (tickets history).length < limit) :
    (tickets history).Pairwise (· < ·)
    ∧ (∀ before after, history = before ++ after → ∃ c, Runs {} before c ∧ Runs c after last
      ∧ (∀ t ∈ tickets before, c.isCurrent t = true ↔ (tickets before).getLast? = some t)
      ∧ (∀ t ∈ tickets before, ∀ u ∈ tickets before,
        c.isCurrent t = true → c.isCurrent u = true → t = u)
      ∧ ∀ t ∈ tickets before, c.isCurrent t = false → last.isCurrent t = false)
    ∧ ∀ before client t current after, history = before ++ .asked client t current :: after →
      t ∈ tickets before → (current = true ↔ (tickets before).getLast? = some t) := by
  refine ⟨?_, ?_, ?_⟩
  · rw [(h.counted (by simpa using hlt)).1]
    exact List.pairwise_lt_range'
  · rintro before after rfl
    obtain ⟨c, hbefore, hafter⟩ := runs_append_iff.mp h
    rw [tickets_append, List.length_append] at hlt
    have hlt' : (tickets before).length < limit := by omega
    refine ⟨c, hbefore, hafter, fun t ht => hbefore.isCurrent_iff hlt' ht, ?_, ?_⟩
    · intro t ht u hu hct hcu
      have hlast := (hbefore.isCurrent_iff hlt' ht).mp hct
      rw [(hbefore.isCurrent_iff hlt' hu).mp hcu] at hlast
      exact (Option.some.inj hlast).symm
    · intro t ht hstale
      -- the counter has gone past the ticket and never goes back
      have hpast := hbefore.lt_latest hlt' ht hstale
      obtain ⟨-, hc⟩ := hbefore.counted (by simpa using hlt')
      simp only [Nat.zero_add] at hc
      have hgoes := (hafter.counted (by omega)).2
      rw [isCurrent, beq_eq_false_iff_ne]
      omega
  · rintro before client t current after rfl ht
    obtain ⟨c, hbefore, hafter⟩ := runs_append_iff.mp h
    rw [tickets_append, List.length_append] at hlt
    cases hafter with
    | cons hstep _ =>
      cases hstep with
      | ask => exact hbefore.isCurrent_iff (by omega) ht

/-- Two clients in turn: the first is told that its ticket is current, the second takes another,
and then the first is told that its own is not current any more. -/
def Typing.turns : List (Event String) :=
  [.issued "first" 1, .asked "first" 1 true, .issued "second" 2, .asked "first" 1 false]

/-- In this history the second ticket comes after the first, is the only current one at the end,
and both answers to the first client are right. -/
theorem Typing.second_ticket_current : Runs {} Typing.turns ⟨2⟩
    ∧ (tickets Typing.turns).length < limit
    ∧ (tickets Typing.turns).Pairwise (· < ·)
    ∧ (∃ c, Runs {} Typing.turns c ∧ c.isCurrent 2 = true
      ∧ (tickets Typing.turns).getLast? = some 2)
    ∧ ((true = true) ↔ (tickets [Event.issued "first" 1]).getLast? = some 1)
    ∧ ((false = true) ↔ (tickets (Typing.turns.take 3)).getLast? = some 1) := by
  have hruns : Runs {} Typing.turns ⟨2⟩ :=
    .cons (.issue {} "first") (.cons (.ask ⟨1⟩ "first" 1) (.cons (.issue ⟨1⟩ "second")
      (.cons (.ask ⟨2⟩ "first" 1) (.nil _))))
  have hlt : (tickets Typing.turns).length < limit := by decide
  obtain ⟨hascending, hpoints, hanswers⟩ := only_latest_current hruns hlt
  obtain ⟨c, hc, -, hcurrent, -, -⟩ := hpoints Typing.turns [] (List.append_nil _).symm
  refine ⟨hruns, hlt, hascending, ⟨c, hc, (hcurrent 2 (by decide)).mpr rfl, rfl⟩, ?_, ?_⟩
  · exact hanswers [.issued "first" 1] "first" 1 true _ rfl (by decide)
  · exact hanswers (Typing.turns.take 3) "first" 1 false [] rfl (by decide)

end TicketCounter
end FormLogic
