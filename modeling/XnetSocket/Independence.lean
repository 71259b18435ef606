import XnetSocket.Lib.Locality
import XnetSocket.Passage

/-!
The order of the events in a batch.

An event of a socket looks at one connection and changes no other: what becomes of that connection
depends on it and on the event alone. So the poll may report the events of a batch in any order.
-/

namespace XnetSocket.Independence

open Buffer Runs Connection Lifecycle Evolution Custody Touches Deeds Joining Network Fallback
open Passage

variable {F H : Type}

section Outcomes

variable [Factory F H] [Handler H] [Host] {h h' : Watched F H}

/-- Whether the connection wants anything from its socket. -/
def is_active (c : Connection H) : Bool := c.events.is_readable || c.events.is_writable

omit [Factory F H] in
/-- What the look at a connection after an event leaves in its slot, and the handler that is passed
back if it is lost: it stays when it wants something and the poll goes on watching it. -/
def settled (polls : List (Except IoError Unit)) (c : Connection (Recorded H)) :
    Except Panic (Option (Connection (Recorded H)) × List (Recorded H)) :=
  if is_active c then
    match polls with
    | .error err :: _ => do
      let c ← c.error (.from_io err)
      .ok (none, [c.handler])
    | _ => .ok (some c, [])
  else .ok (none, [c.handler])

omit [Factory F H] in
/-- What an event makes of the connection in its slot. -/
def outcome (evt : Io.Event) :
    Option (Connection (Recorded H)) →
      Except Panic (Option (Connection (Recorded H)) × List (Recorded H))
  | none => .error .index
  | some c => exchange evt.kind (supplied evt c) >>= settled evt.answers.polls

/-- The loop handles an event of a socket. -/
def on_socket (h : Watched F H) (evt : Io.Event) : Except Panic (Watched F H) :=
  h.input (.event evt)

omit [Handler H] [Host] in
lemma lose_returns {t : Token} {c : Connection (Recorded H)}
    (hc : h.connections.get t = some c) : ∃ g, h.lose t = .ok g ∧
      (∀ j, g.connections.get j = if t = j then none else h.connections.get j) ∧
      g.factory.lost = h.factory.lost ++ [c.handler] := by
  obtain ⟨s, hr⟩ := Slab.remove_isSome hc
  have hl : ∃ g, h.lose t = .ok g := by
    unfold Io.Handler.lose
    rw [hr]
    exact ⟨_, rfl⟩
  obtain ⟨g, hg⟩ := hl
  obtain ⟨d, hd, hlost, hslots, -⟩ := lose_spec hg
  rw [hc, Option.some.injEq] at hd
  exact ⟨g, hg, hslots, hd ▸ hlost⟩

/-- Only slot `t` has changed, to what is in `r`, and what was lost is in `r` as well. -/
def Leaves (h : Watched F H) (t : Token) (g : Watched F H)
    (r : Option (Connection (Recorded H)) × List (Recorded H)) : Prop :=
  (∀ j, g.connections.get j = if t = j then r.1 else h.connections.get j) ∧
    g.factory.lost = h.factory.lost ++ r.2

omit [Handler H] [Host] in
lemma lose_leaves {t : Token} {c : Connection (Recorded H)} (hc : h.connections.get t = some c) :
    Alike (Leaves h t) (h.lose t) (.ok (none, [c.handler]) : Except Panic _) := by
  obtain ⟨g, hg, hslots, hlost⟩ := lose_returns hc
  rw [hg]
  exact ⟨hslots, hlost⟩

/-- The look at a connection after an event. -/
lemma check_active_settles {t : Token} {c : Connection (Recorded H)}
    (hc : h.connections.get t = some c) :
    Alike (Leaves h t) (h.check_active (is_active c) t) (settled h.poll.polls c) := by
  unfold Io.Handler.check_active settled
  rw [at_slot_of_get hc, ok_bind]
  split
  · unfold Io.Handler.schedule Os.reregister Os.register
    rcases hp : h.poll.polls with _ | ⟨err | u, rest⟩
    · exact ⟨fun j => by split <;> simp_all, by simp⟩
    · dsimp only
      rcases he : c.error (.from_io err) with p | d
      · rfl
      · simp only [ok_bind]
        have hget := get_put (h := { h with poll := { h.poll with
          polls := rest, refused := h.poll.refused ++ [c.token] } }) hc d
        have hl := lose_leaves hget
        refine hl.mono fun g r hr => ⟨fun j => ?_, hr.2⟩
        rw [hr.1 j]
        split
        · rfl
        · rename_i hne
          exact Slab.get_set_ne hne
    · exact ⟨fun j => by split <;> simp_all, by simp⟩
  · exact lose_leaves hc

/-- **An event of a socket** does to its slot what its outcome says, and nothing to the others. -/
theorem handle_socket_outcome {evt : Io.Event} (ho : AllOpened h) :
    Alike (Leaves h evt.token) ((h.supply evt.token evt.answers).handle_socket evt.token evt.kind)
      (outcome evt (h.connections.get evt.token)) := by
  rcases hc : h.connections.get evt.token with _ | c
  · have hsupply : (h.supply evt.token evt.answers).connections = h.connections := by
      unfold Io.Handler.supply
      rw [hc]
    unfold Io.Handler.handle_socket Io.Handler.attempt Io.Handler.at_slot
    rw [hsupply, hc]
    rfl
  · have hslot : (h.supply evt.token evt.answers).connections.get evt.token =
        some (supplied evt c) := supply_slot hc evt.answers
    have hopen : Opened (supplied evt c) := Or.imp id id (ho _ c hc)
    rw [handle_socket_eq hslot hopen, outcome, exchange]
    rcases reading evt.kind (supplied evt c) with p | d
    · rfl
    simp only [ok_bind]
    rcases writing evt.kind d with p | e
    · rfl
    simp only [ok_bind]
    have hsettles := check_active_settles (get_put hslot e)
    refine hsettles.mono fun g r hr => ⟨fun j => ?_, hr.2⟩
    rw [hr.1 j]
    split
    · rfl
    · rename_i hne
      rw [Io.Handler.put, Slab.get_set_ne hne]
      unfold Io.Handler.supply
      rw [hc]
      exact Slab.get_set_ne hne

lemma on_socket_outcome {evt : Io.Event} (ho : AllOpened h) (ht : evt.token < SYSTEM) :
    Alike (Leaves h evt.token) (on_socket h evt) (outcome evt (h.connections.get evt.token)) := by
  have hevent : on_socket h evt =
      (h.supply evt.token evt.answers).handle_socket evt.token evt.kind :=
    Io.Handler.handle_event_slot _ ht _
  rw [hevent]
  exact handle_socket_outcome ho

omit [Factory F H] in
/-- A connection that keeps its slot is as reading and writing left it. -/
lemma outcome_stays {evt : Io.Event} {c c' : Connection (Recorded H)} {lost : List (Recorded H)}
    (h : outcome evt (some c) = .ok (some c', lost)) :
    exchange evt.kind (supplied evt c) = .ok c' := by
  obtain ⟨e, he, hs⟩ := bind_eq_ok.mp h
  unfold settled at hs
  split at hs
  · split at hs
    · obtain ⟨d, -, hs⟩ := bind_eq_ok.mp hs
      cases hs
    · cases hs
      exact he
  · cases hs

/-- It stays only when it wants something. -/
lemma outcome_active {evt : Io.Event} {c c' : Connection (Recorded H)} {lost : List (Recorded H)}
    (h : outcome evt (some c) = .ok (some c', lost)) : is_active c' = true := by
  obtain ⟨e, he, hs⟩ := bind_eq_ok.mp h
  unfold settled at hs
  split at hs
  · rename_i hactive
    split at hs
    · obtain ⟨d, -, hs⟩ := bind_eq_ok.mp hs
      cases hs
    · cases hs
      exact hactive
  · cases hs

/-- The handler that an event passes back, if its connection is lost. -/
def passed_back (h : Watched F H) (evt : Io.Event) : List (Recorded H) :=
  logged (outcome evt (h.connections.get evt.token))

end Outcomes

end XnetSocket.Independence
