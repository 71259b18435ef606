import XnetSocket.Evolution
import XnetSocket.Loop

/-!
What every step keeps of the connections and of the ledger.

A connection found in a slot after a step was there before, perhaps earlier in its life, or it
has been made since, with a number no handler had before, in the slot and with the id that its
sender was given. So a number that has left the slab does not come back.
-/

namespace XnetSocket.Custody

open Buffer Runs Connection Evolution

variable {F H : Type}

/-- The event loop over recorded handlers and a ledger. -/
abbrev Watched (F H : Type) := Io.Handler (Ledger F H) (Recorded H)

/-- The ids are given out in order, and `next` is the next. -/
def Counted (next : UInt32) (made : List Sender) : Prop :=
  next = UInt32.ofNat made.length ∧ ∀ k s, made[k]? = some s → s.connection_id = UInt32.ofNat k

lemma Counted.snoc {next : UInt32} {made : List Sender} (h : Counted next made) {s : Sender}
    (hs : s.connection_id = next) : Counted (next + 1) (made ++ [s]) := by
  obtain ⟨hn, hall⟩ := h
  refine ⟨?_, fun k s' hk => ?_⟩
  · rw [List.length_append, List.length_singleton, UInt32.ofNat_add, hn]
    rfl
  · rcases Nat.lt_trichotomy k made.length with hlt | rfl | hgt
    · rw [List.getElem?_append_left hlt] at hk
      exact hall k s' hk
    · rw [List.getElem?_concat_length, Option.some.injEq] at hk
      rw [← hk, hs, hn]
    · rw [List.getElem?_eq_none (by simp; omega)] at hk
      cases hk

/-- Every handler is in one place: the numbers of those in the slots and of those passed back are
all different, and below the number of handlers made. -/
structure Accounted (slots : Slab (Connection (Recorded H))) (made : ℕ)
    (lost : List (Recorded H)) : Prop where
  slots_lt : ∀ t c, slots.get t = some c → c.handler.birth < made
  lost_lt : ∀ x ∈ lost, x.birth < made
  apart : ∀ t c, slots.get t = some c → ∀ x ∈ lost, x.birth ≠ c.handler.birth
  distinct : ∀ t j c d, slots.get t = some c → slots.get j = some d →
    c.handler.birth = d.handler.birth → t = j
  once : (lost.map (·.birth)).Nodup

section Accounts

variable {slots slots' : Slab (Connection (Recorded H))} {made : ℕ} {lost : List (Recorded H)}

/-- The same handlers are in the same slots, or fewer. -/
lemma Accounted.of_births (ha : Accounted slots made lost)
    (hs : ∀ t c', slots'.get t = some c' →
      ∃ c, slots.get t = some c ∧ c'.handler.birth = c.handler.birth) :
    Accounted slots' made lost := by
  refine ⟨fun t c' hc' => ?_, ha.lost_lt, fun t c' hc' x hx => ?_, fun t j c' d' hc' hd' he => ?_,
    ha.once⟩
  · obtain ⟨c, hc, hb⟩ := hs t c' hc'
    rw [hb]
    exact ha.slots_lt t c hc
  · obtain ⟨c, hc, hb⟩ := hs t c' hc'
    rw [hb]
    exact ha.apart t c hc x hx
  · obtain ⟨c, hc, hb⟩ := hs t c' hc'
    obtain ⟨d, hd, hb'⟩ := hs j d' hd'
    exact ha.distinct t j c d hc hd (hb ▸ hb' ▸ he)

lemma Accounted.more (ha : Accounted slots made lost) : Accounted slots (made + 1) lost :=
  ⟨fun t c hc => Nat.lt_succ_of_lt (ha.slots_lt t c hc),
    fun x hx => Nat.lt_succ_of_lt (ha.lost_lt x hx), ha.apart, ha.distinct, ha.once⟩

/-- A new handler is passed back at once. -/
lemma Accounted.returned (ha : Accounted slots made lost) {x : Recorded H} (hx : x.birth = made) :
    Accounted slots (made + 1) (lost ++ [x]) := by
  refine ⟨ha.more.slots_lt, fun y hy => ?_, fun t c hc y hy => ?_, ha.distinct, ?_⟩
  · rcases List.mem_append.mp hy with hy | hy
    · exact ha.more.lost_lt y hy
    · rw [List.mem_singleton.mp hy, hx]
      exact Nat.lt_succ_self made
  · rcases List.mem_append.mp hy with hy | hy
    · exact ha.apart t c hc y hy
    · rw [List.mem_singleton.mp hy, hx]
      exact (Nat.ne_of_lt (ha.slots_lt t c hc)).symm
  · rw [List.map_append, List.map_singleton, hx, ← List.concat_eq_append]
    refine ha.once.concat fun hm => ?_
    obtain ⟨y, hy, hb⟩ := List.mem_map.mp hm
    exact absurd (ha.lost_lt y hy) (by rw [hb]; exact lt_irrefl _)

/-- A new handler gets a slot. -/
lemma Accounted.insert (ha : Accounted slots made lost) {tok : Token}
    (hv : slots.vacant_entry = some tok) {c : Connection (Recorded H)}
    (hb : c.handler.birth = made) :
    Accounted (slots.insert c) (made + 1) lost := by
  have hget : ∀ t d, (slots.insert c).get t = some d → tok = t ∧ d = c ∨ slots.get t = some d := by
    intro t d hd
    rw [Slab.get_insert hv] at hd
    split at hd
    · rename_i ht
      exact Or.inl ⟨ht, (Option.some.inj hd).symm⟩
    · exact Or.inr hd
  refine ⟨fun t d hd => ?_, ha.more.lost_lt, fun t d hd x hx => ?_, fun t j d e hd he hde => ?_,
    ha.once⟩
  · rcases hget t d hd with ⟨-, rfl⟩ | hd
    · rw [hb]
      exact Nat.lt_succ_self made
    · exact ha.more.slots_lt t d hd
  · rcases hget t d hd with ⟨-, rfl⟩ | hd
    · rw [hb]
      exact Nat.ne_of_lt (ha.lost_lt x hx)
    · exact ha.apart t d hd x hx
  · rcases hget t d hd with ⟨ht, rfl⟩ | hd' <;> rcases hget j e he with ⟨hj, rfl⟩ | he'
    · exact ht.symm.trans hj
    · exact absurd (ha.slots_lt j e he') (by rw [← hde, hb]; exact lt_irrefl _)
    · exact absurd (ha.slots_lt t d hd') (by rw [hde, hb]; exact lt_irrefl _)
    · exact ha.distinct t j d e hd' he' hde

/-- A handler leaves its slot and is passed back. -/
lemma Accounted.remove (ha : Accounted slots made lost) {t : Token} {c : Connection (Recorded H)}
    (hr : slots.remove t = some (c, slots')) : Accounted slots' made (lost ++ [c.handler]) := by
  obtain ⟨hc, -⟩ := Slab.remove_eq hr
  have hget : ∀ j d, slots'.get j = some d → t ≠ j ∧ slots.get j = some d := by
    intro j d hd
    rw [Slab.get_remove hr] at hd
    split at hd
    · cases hd
    · rename_i hne
      exact ⟨hne, hd⟩
  refine ⟨fun j d hd => ha.slots_lt j d (hget j d hd).2, fun x hx => ?_, fun j d hd x hx => ?_,
    fun j k d e hd he => ha.distinct j k d e (hget j d hd).2 (hget k e he).2, ?_⟩
  · rcases List.mem_append.mp hx with hx | hx
    · exact ha.lost_lt x hx
    · rw [List.mem_singleton.mp hx]
      exact ha.slots_lt t c hc
  · obtain ⟨hne, hd⟩ := hget j d hd
    rcases List.mem_append.mp hx with hx | hx
    · exact ha.apart j d hd x hx
    · rw [List.mem_singleton.mp hx]
      exact fun hb => hne (ha.distinct t j c d hc hd hb)
  · rw [List.map_append, List.map_singleton, ← List.concat_eq_append]
    refine ha.once.concat fun hm => ?_
    obtain ⟨x, hx, hb⟩ := List.mem_map.mp hm
    exact ha.apart t c hc x hx hb

end Accounts

/-- The handlers are numbered by the ids they were made with, their senders name slots, and each is
in one place. -/
structure Numbered (h : Watched F H) : Prop where
  counted : Counted h.next_connection_id h.factory.made
  slots : ∀ s ∈ h.factory.made, s.token < h.connections.capacity
  accounted : Accounted h.connections h.factory.made.length h.factory.lost

/-- What waits in the queue and the timer does not matter. -/
lemma Numbered.waiting {h : Watched F H} (hn : Numbered h) {queue : SyncChannel} {timer : Timer} :
    Numbered { h with queue := queue, timer := timer } :=
  ⟨hn.counted, hn.slots, hn.accounted⟩

/-- Where the connection `c'` in slot `t` comes from. -/
def Descends (h h' : Watched F H) (t : Token) (c' : Connection (Recorded H)) : Prop :=
  (∃ c, h.connections.get t = some c ∧ Evolves c c') ∨
    h.factory.made.length ≤ c'.handler.birth ∧ c'.token = t ∧ c'.settings = h.settings ∧
      h'.factory.made[c'.handler.birth]? = some ⟨t, c'.connection_id⟩ ∧ h.settings.Allocatable

/-- What every step keeps. -/
structure Keeps (h h' : Watched F H) : Prop where
  settings : h'.settings = h.settings
  listener : h'.listener = h.listener
  queue : h'.queue = h.queue
  timer : h'.timer = h.timer
  capacity : h'.connections.capacity = h.connections.capacity
  made : h.factory.made <+: h'.factory.made
  lost : h.factory.lost <+: h'.factory.lost
  numbered : Numbered h → Numbered h'
  descends : ∀ t c', h'.connections.get t = some c' → Descends h h' t c'

lemma Keeps.refl (h : Watched F H) : Keeps h h :=
  ⟨rfl, rfl, rfl, rfl, rfl, List.prefix_refl _, List.prefix_refl _, id,
    fun _ c' hc' => Or.inl ⟨c', hc', .refl c'⟩⟩

/-- What waits in the queue does not matter. -/
lemma Keeps.requeue {h h' : Watched F H} (hk : Keeps h h') (queue : SyncChannel) :
    Keeps { h with queue := queue } { h' with queue := queue } :=
  ⟨hk.settings, hk.listener, rfl, hk.timer, hk.capacity, hk.made, hk.lost,
    fun hn => (hk.numbered hn.waiting).waiting, hk.descends⟩

/-- What waits in the timer does not matter. -/
lemma Keeps.retime {h h' : Watched F H} (hk : Keeps h h') (timer : Timer) :
    Keeps { h with timer := timer } { h' with timer := timer } :=
  ⟨hk.settings, hk.listener, hk.queue, rfl, hk.capacity, hk.made, hk.lost,
    fun hn => (hk.numbered hn.waiting).waiting, hk.descends⟩

lemma getElem?_of_prefix {α : Type} {l m : List α} (h : l <+: m) {i : ℕ} {a : α}
    (ha : l[i]? = some a) : m[i]? = some a := by
  obtain ⟨r, rfl⟩ := h
  rw [List.getElem?_append_left (List.getElem?_eq_some_iff.mp ha).1]
  exact ha

lemma Keeps.trans {h d h' : Watched F H} (hd : Keeps h d) (hh : Keeps d h') : Keeps h h' := by
  refine ⟨hh.settings.trans hd.settings, hh.listener.trans hd.listener,
    hh.queue.trans hd.queue, hh.timer.trans hd.timer, hh.capacity.trans hd.capacity,
    hd.made.trans hh.made, hd.lost.trans hh.lost,
    fun hn => hh.numbered (hd.numbered hn), fun t c' hc' => ?_⟩
  rcases hh.descends t c' hc' with ⟨c, hc, he⟩ | ⟨hb, ht, hs, hm, ha⟩
  · rcases hd.descends t c hc with ⟨b, hb, he'⟩ | ⟨hb, ht, hs, hm, ha⟩
    · exact Or.inl ⟨b, hb, he'.trans he⟩
    · refine Or.inr ⟨?_, ?_, ?_, ?_, ha⟩
      · rw [he.birth]; exact hb
      · rw [he.same.token]; exact ht
      · rw [he.same.settings]; exact hs
      · rw [he.birth, he.same.connection_id]
        exact getElem?_of_prefix hh.made hm
  · exact Or.inr ⟨le_trans hd.made.length_le hb, ht, hs.trans hd.settings, hm, hd.settings ▸ ha⟩

/-- A change that leaves the slots and the entries of the ledger alone. -/
lemma Keeps.of_slots {h h' : Watched F H} (hs : h'.settings = h.settings)
    (hl : h'.listener = h.listener) (hq : h'.queue = h.queue) (ht : h'.timer = h.timer)
    (hc : h'.connections = h.connections)
    (hm : h'.factory.made = h.factory.made) (hlost : h'.factory.lost = h.factory.lost)
    (hid : h'.next_connection_id = h.next_connection_id) : Keeps h h' := by
  refine ⟨hs, hl, hq, ht, by rw [hc], ⟨[], by rw [hm, List.append_nil]⟩,
    ⟨[], by rw [hlost, List.append_nil]⟩, ?_, ?_⟩
  · intro hn
    exact ⟨by rw [hm, hid]; exact hn.counted, by rw [hm, hc]; exact hn.slots,
      by rw [hm, hc, hlost]; exact hn.accounted⟩
  · intro t c' hc'
    rw [hc] at hc'
    exact Or.inl ⟨c', hc', .refl c'⟩

/-- Changes to the poll and the state. -/
lemma keeps_with (h : Watched F H) (poll : Os) (state : Io.State) :
    Keeps h { h with poll := poll, state := state } :=
  .of_slots rfl rfl rfl rfl rfl rfl rfl rfl

/-- Every connection of the slots `conns` evolved from the one that was in its slot. -/
lemma keeps_slots {h : Watched F H} {conns : Slab (Connection (Recorded H))}
    (hcap : conns.capacity = h.connections.capacity)
    (hs : ∀ t c', conns.get t = some c' → ∃ c, h.connections.get t = some c ∧ Evolves c c') :
    Keeps h { h with connections := conns } := by
  refine ⟨rfl, rfl, rfl, rfl, hcap, List.prefix_refl _, List.prefix_refl _,
    fun hn => ⟨hn.counted, fun s hm => hcap ▸ hn.slots s hm, hn.accounted.of_births ?_⟩,
    fun t c' hc' => Or.inl (hs t c' hc')⟩
  intro t c' hc'
  obtain ⟨c, hc, he⟩ := hs t c' hc'
  exact ⟨c, hc, he.birth⟩

lemma put_keeps {h : Watched F H} {t : Token} {c c' : Connection (Recorded H)}
    (hc : h.connections.get t = some c) (he : Evolves c c') : Keeps h (h.put t c') := by
  refine keeps_slots (Slab.set_capacity _ _ _) fun j d hd => ?_
  by_cases hj : t = j
  · subst hj
    rw [Slab.get_set_self hc] at hd
    cases hd
    exact ⟨c, hc, he⟩
  · rw [Slab.get_set_ne hj] at hd
    exact ⟨d, hd, .refl d⟩

lemma get_put {h : Watched F H} {t : Token} {c : Connection (Recorded H)}
    (hc : h.connections.get t = some c) (c' : Connection (Recorded H)) :
    (h.put t c').connections.get t = some c' :=
  Slab.get_set_self hc

lemma at_slot_eq {h : Watched F H} {t : Token} {c : Connection (Recorded H)}
    (hc : h.at_slot t = .ok c) : h.connections.get t = some c := by
  unfold Io.Handler.at_slot at hc
  split at hc
  · cases hc; assumption
  · cases hc

lemma schedule_keeps (h : Watched F H) (c : Connection (Recorded H)) :
    Keeps h (h.schedule c).1 := by
  unfold Io.Handler.schedule
  split <;> exact keeps_with h _ _

lemma schedule_slots (h : Watched F H) (c : Connection (Recorded H)) :
    (h.schedule c).1.connections = h.connections := by
  unfold Io.Handler.schedule
  split <;> rfl

/-- Scheduling all connections leaves them as they are. -/
lemma schedule_all_keeps (h : Watched F H) :
    Keeps h h.schedule_all.1 ∧ h.schedule_all.1.connections = h.connections := by
  unfold Io.Handler.schedule_all
  refine List.foldlRecOn (motive := fun acc : Watched F H × List (Token × Error) =>
    Keeps h acc.1 ∧ acc.1.connections = h.connections) _ _ ⟨.refl h, rfl⟩ ?_
  intro acc hacc slot _
  unfold Io.Handler.schedule_slot
  split
  · rename_i c _
    have hk := hacc.1.trans (schedule_keeps acc.1 c)
    have hs := (schedule_slots acc.1 c).trans hacc.2
    split <;> rename_i hsch <;> rw [hsch] at hk hs <;> exact ⟨hk, hs⟩
  · exact hacc

/-- Visiting every connection with something it evolves by. -/
lemma iter_mut_keeps {h : Watched F H} {A : Type}
    {f : Connection (Recorded H) → Except Panic (Connection (Recorded H) × List A)}
    (hf : ∀ c c' as, f c = .ok (c', as) → Evolves c c') {conns : Slab (Connection (Recorded H))}
    {as : List A} (hi : h.connections.iter_mut f = .ok (conns, as)) :
    Keeps h { h with connections := conns } :=
  keeps_slots (Slab.iter_mut_capacity hi) fun _ _ hc' => Slab.iter_mut_rel hf hi hc'

/-- A handler is made, and its connection is put in the vacant slot. -/
lemma insert_keeps {h : Watched F H} {tok : Token} (hv : h.connections.vacant_entry = some tok)
    {made : F × H} {handler : Recorded H} {factory : Ledger F H}
    (hm : Ledger.enter h.factory ⟨tok, h.next_connection_id⟩ made = (factory, handler))
    {c : Connection (Recorded H)} (ht : c.token = tok) (hs : c.settings = h.settings)
    (hid : c.connection_id = h.next_connection_id) (hb : c.handler.birth = handler.birth)
    (ha : h.settings.Allocatable) (poll : Os) :
    Keeps h { h with
      factory := factory, next_connection_id := h.next_connection_id + 1, poll := poll,
      connections := h.connections.insert c } := by
  cases hm
  refine ⟨rfl, rfl, rfl, rfl, Slab.insert_capacity _ _, List.prefix_append _ _, List.prefix_refl _,
    fun hn => ⟨hn.counted.snoc rfl, fun s hs => ?_, ?_⟩, fun t c' hc' => ?_⟩
  · rw [show (h.connections.insert c).capacity = h.connections.capacity from
      Slab.insert_capacity _ _]
    rcases List.mem_append.mp hs with hs | hs
    · exact hn.slots s hs
    · rw [List.mem_singleton.mp hs]
      exact Slab.vacant_lt_capacity hv
  · rw [List.length_append, List.length_singleton]
    exact hn.accounted.insert hv hb
  rw [Slab.get_insert hv] at hc'
  split at hc'
  · rename_i htok
    cases hc'
    subst htok
    refine Or.inr ⟨hb.symm ▸ le_refl _, ht, hs, ?_, ha⟩
    rw [hb, hid]
    exact List.getElem?_concat_length
  · exact Or.inl ⟨c', hc', .refl c'⟩

/-- A handler is made, and its connection comes to nothing; the handler is dropped, or passed
back. -/
lemma enter_keeps {h : Watched F H} {sender : Sender}
    (hid : sender.connection_id = h.next_connection_id)
    (ht : sender.token < h.connections.capacity) {made : F × H} {handler : Recorded H}
    {factory : Ledger F H} (hm : Ledger.enter h.factory sender made = (factory, handler))
    (poll : Os) :
    Keeps h { h with
      factory := factory, next_connection_id := h.next_connection_id + 1, poll := poll } ∧
    ∀ inner, Keeps h { h with
      factory := { factory with inner := inner, lost := factory.lost ++ [handler] },
      next_connection_id := h.next_connection_id + 1, poll := poll } := by
  cases hm
  have hslots : Numbered h →
      ∀ s ∈ h.factory.made ++ [sender], s.token < h.connections.capacity := by
    intro hn s hs
    rcases List.mem_append.mp hs with hs | hs
    · exact hn.slots s hs
    · rw [List.mem_singleton.mp hs]
      exact ht
  have hlen : (h.factory.made ++ [sender]).length = h.factory.made.length + 1 := by simp
  exact ⟨⟨rfl, rfl, rfl, rfl, rfl, List.prefix_append _ _, List.prefix_refl _,
      fun hn => ⟨hn.counted.snoc hid, hslots hn, hlen ▸ hn.accounted.more⟩,
      fun _ c' hc' => Or.inl ⟨c', hc', .refl c'⟩⟩,
    fun _ => ⟨rfl, rfl, rfl, rfl, rfl, List.prefix_append _ _, List.prefix_append _ _,
      fun hn => ⟨hn.counted.snoc hid, hslots hn, hlen ▸ hn.accounted.returned rfl⟩,
      fun _ c' hc' => Or.inl ⟨c', hc', .refl c'⟩⟩⟩

section Factories

variable [Factory F H]

lemma lose_keeps {h h' : Watched F H} {t : Token} (hl : h.lose t = .ok h') : Keeps h h' := by
  unfold Io.Handler.lose at hl
  split at hl
  · rename_i c conns hr
    cases hl
    refine ⟨rfl, rfl, rfl, rfl, Slab.remove_capacity hr, List.prefix_refl _, List.prefix_append _ _,
      fun hn => ⟨hn.counted, (Slab.remove_capacity hr).symm ▸ hn.slots, hn.accounted.remove hr⟩, ?_⟩
    intro t' c' hc'
    simp only at hc'
    rw [Slab.get_remove hr] at hc'
    split at hc'
    · cases hc'
    · exact Or.inl ⟨c', hc', .refl c'⟩
  · cases hl

lemma connect_keeps {h h' : Watched F H} {url : String} {res : Result Unit}
    (hc : h.connect url = .ok (h', res)) : Keeps h h' := by
  unfold Io.Handler.connect at hc
  split at hc
  · cases hc; exact .refl h
  · rename_i tok hv
    dsimp only at hc
    rcases hm : Factory.client_connected h.factory ⟨tok, h.next_connection_id⟩ with
      ⟨factory, handler⟩
    rw [hm] at hc
    obtain ⟨⟨os, addrs⟩, -, hc⟩ := bind_eq_ok.mp hc
    have hskip := enter_keeps rfl (Slab.vacant_lt_capacity hv) hm
    rcases addrs with err | addresses
    · cases hc
      exact (hskip os).2 _
    · dsimp only at hc
      split at hc
      · cases hc; exact (hskip _).1
      · cases hc
        exact (hskip _).2 _
      · rename_i os' sock rest _
        obtain ⟨made, hmade, hc⟩ := bind_eq_ok.mp hc
        obtain ⟨ha, rfl⟩ := new_eq_ok hmade
        have hins : ∀ (c : Connection (Recorded H)) (poll : Os),
            Evolves (blank tok sock handler h.settings h.next_connection_id) c →
            Keeps h { h with
              factory := factory, next_connection_id := h.next_connection_id + 1, poll := poll,
              connections := h.connections.insert c } := by
          intro c poll he
          exact insert_keeps hv hm he.same.token he.same.settings he.same.connection_id he.birth
            ha poll
        have hev := (open_evolves (blank tok sock handler h.settings
          h.next_connection_id)).trans (as_client_evolves _ url rest.reverse)
        split at hc
        · rename_i conn err has
          obtain ⟨d, hd, hc⟩ := bind_eq_ok.mp hc
          cases hc
          rw [has] at hev
          exact (hins conn os' hev).trans (lose_keeps hd)
        · rename_i conn has
          rw [has] at hev
          split at hc
          · cases hc
            exact hins conn _ hev
          · rename_i os'' err _
            obtain ⟨d, hd, hc⟩ := bind_eq_ok.mp hc
            cases hc
            exact (hins conn os'' hev).trans (lose_keeps hd)

lemma check_count_keeps (h : Watched F H) : Keeps h h.check_count := by
  unfold Io.Handler.check_count
  split
  · split
    · exact .of_slots rfl rfl rfl rfl rfl rfl rfl rfl
    · exact .refl h
  · exact .refl h

variable [Handler H] [Host]

lemma setup_failed_evolves {c c' : Connection (Recorded H)} {panics : Bool} {err : Error}
    (h : Io.Handler.setup_failed c panics err = .ok c') : Evolves c c' := by
  obtain ⟨d, hd, h⟩ := bind_eq_ok.mp h
  split at h <;> cases h
  exact error_evolves hd

lemma register_accepted_evolves {c c' : Connection (Recorded H)} {os os' : Os} {panics : Bool}
    (h : Io.Handler.register_accepted os c panics = .ok (os', c')) : Evolves c c' := by
  unfold Io.Handler.register_accepted at h
  split at h
  · cases h; exact .refl c
  · obtain ⟨d, hd, h⟩ := bind_eq_ok.mp h
    cases h
    exact setup_failed_evolves hd

lemma open_accepted_evolves {c c' : Connection (Recorded H)} {panics : Bool}
    (h : Io.Handler.open_accepted c panics = .ok c') : Evolves c c' := by
  have he := open_evolves c
  unfold Io.Handler.open_accepted at h
  split at h <;> rename_i hopen <;> rw [hopen] at he
  · cases h; exact he
  · exact he.trans (setup_failed_evolves h)

lemma accept_keeps {h h' : Watched F H} {sock : TcpStream} {res : Result Unit}
    (ha : h.accept sock = .ok (h', res)) : Keeps h h' := by
  unfold Io.Handler.accept at ha
  split at ha
  · cases ha; exact keeps_with h _ _
  · rename_i os _
    dsimp only at ha
    split at ha
    · cases ha; exact keeps_with h _ _
    · rename_i tok hv
      rcases hm : Factory.server_connected h.factory ⟨tok, h.next_connection_id⟩ with
        ⟨factory, handler⟩
      rw [hm] at ha
      dsimp only at ha
      obtain ⟨made, hmade, ha⟩ := bind_eq_ok.mp ha
      obtain ⟨halloc, rfl⟩ := new_eq_ok hmade
      have hins : ∀ (c : Connection (Recorded H)) (poll : Os),
          Evolves (blank tok sock handler h.settings h.next_connection_id) c →
          Keeps h { h with
            factory := factory, next_connection_id := h.next_connection_id + 1, poll := poll,
            connections := h.connections.insert c } := by
        intro c poll he
        exact insert_keeps hv hm he.same.token he.same.settings he.same.connection_id he.birth
          halloc poll
      have hev := as_server_evolves (blank tok sock handler h.settings h.next_connection_id)
      split at ha
      · rename_i conn err has
        cases ha
        rw [has] at hev
        exact hins conn os hev
      · rename_i conn has
        rw [has] at hev
        obtain ⟨⟨os', d⟩, hd, ha⟩ := bind_eq_ok.mp ha
        obtain ⟨e, he, ha⟩ := bind_eq_ok.mp ha
        cases ha
        exact hins e os' ((hev.trans (register_accepted_evolves hd)).trans
          (open_accepted_evolves he))

omit [Host] in
lemma shutdown_keeps {h h' : Watched F H} (hs : h.shutdown = .ok h') : Keeps h h' := by
  obtain ⟨⟨conns, us⟩, hi, hs⟩ := bind_eq_ok.mp hs
  dsimp only at hs
  split at hs <;> cases hs
  have hconns : Keeps h { h with connections := conns } := by
    refine iter_mut_keeps (fun c c' as hc => ?_) hi
    obtain ⟨d, hd, hc⟩ := bind_eq_ok.mp hc
    cases hc
    exact shutdown_evolves hd
  exact hconns.trans (.of_slots rfl rfl rfl rfl rfl rfl rfl rfl)

lemma check_active_keeps {h h' : Watched F H} {active : Bool} {t : Token}
    (hc : h.check_active active t = .ok h') : Keeps h h' := by
  obtain ⟨c, hat, hc⟩ := bind_eq_ok.mp hc
  have hget := at_slot_eq hat
  split at hc
  · have hk := schedule_keeps h c
    have hslots := schedule_slots h c
    rcases hs : h.schedule c with ⟨d, err | u⟩
    · rw [hs] at hc hk hslots
      obtain ⟨c', he, hc⟩ := bind_eq_ok.mp hc
      have hslot : d.connections.get t = some c := by
        rw [show d.connections = h.connections from hslots]; exact hget
      exact (hk.trans (put_keeps hslot (error_evolves he))).trans (lose_keeps hc)
    · rw [hs] at hc hk
      cases hc
      exact hk
  · exact lose_keeps hc

/-! ### Commands -/

omit [Factory F H] in
lemma with_id_keeps {h h' : Watched F H} {t : Token} {id : UInt32}
    {f : Connection (Recorded H) → Except Panic (Connection (Recorded H) × Result Unit)}
    (hf : ∀ c c' res, f c = .ok (c', res) → Evolves c c') (hw : h.with_id t id f = .ok h') :
    Keeps h h' := by
  unfold Io.Handler.with_id at hw
  split at hw
  · rename_i c hget
    split at hw
    · obtain ⟨⟨d, res⟩, hd, hw⟩ := bind_eq_ok.mp hw
      rcases res with err | u
      · obtain ⟨e, he, hw⟩ := bind_eq_ok.mp hw
        cases hw
        exact put_keeps hget ((hf c d _ hd).trans (error_evolves he))
      · cases hw
        exact put_keeps hget (hf c d _ hd)
    · cases hw; exact .refl h
  · cases hw; exact .refl h

omit [Factory F H] in
lemma error_at_keeps {h h' : Watched F H} {t : Token} {err : Error}
    (he : h.error_at t err = .ok h') : Keeps h h' := by
  unfold Io.Handler.error_at at he
  split at he
  · rename_i c hget
    obtain ⟨d, hd, he⟩ := bind_eq_ok.mp he
    cases he
    exact put_keeps hget (error_evolves hd)
  · cases he; exact .refl h

omit [Factory F H] in
lemma schedule_at_keeps {h h' : Watched F H} {t : Token} (hs : h.schedule_at t = .ok h') :
    Keeps h h' := by
  unfold Io.Handler.schedule_at at hs
  split at hs
  · rename_i c hget
    have hk := schedule_keeps h c
    have hslots := schedule_slots h c
    rcases hsch : h.schedule c with ⟨d, err | u⟩
    · rw [hsch] at hs hk hslots
      obtain ⟨c', he, hs⟩ := bind_eq_ok.mp hs
      cases hs
      have hslot : d.connections.get t = some c := by
        rw [show d.connections = h.connections from hslots]; exact hget
      exact hk.trans (put_keeps hslot (error_evolves he))
    · rw [hsch] at hs hk
      cases hs
      exact hk
  · cases hs; exact .refl h

lemma take_timeout_evolves {c c' : Connection (Recorded H)} {event : Token}
    {timeout : TimerHandle} (h : Io.Handler.take_timeout event timeout c = .ok c') :
    Evolves c c' := by
  have hn := new_timeout_evolves c event timeout
  unfold Io.Handler.take_timeout at h
  split at h <;> rename_i heq <;> rw [heq] at hn
  · cases h; exact hn
  · exact hn.trans (error_evolves h)

omit [Factory F H] [Handler H] [Host] in
lemma for_each_keeps {h h' : Watched F H} {dead : List (Token × Error)}
    {f : Connection (Recorded H) → Except Panic (Connection (Recorded H) × Result Unit)}
    (hf : ∀ c c' res, f c = .ok (c', res) → Evolves c c')
    (he : h.for_each f = .ok (h', dead)) : Keeps h h' := by
  obtain ⟨⟨conns, as⟩, hi, he⟩ := bind_eq_ok.mp he
  cases he
  refine iter_mut_keeps (fun c c' as hc => ?_) hi
  obtain ⟨⟨d, res⟩, hd, hc⟩ := bind_eq_ok.mp hc
  rcases res with err | u <;> cases hc <;> exact hf c _ _ hd

omit [Factory F H] in
lemma finish_broadcast_keeps {h h' : Watched F H} {dead : List (Token × Error)}
    (hf : h.finish_broadcast dead = .ok h') : Keeps h h' := by
  unfold Io.Handler.finish_broadcast at hf
  have hk := (schedule_all_keeps h).1
  rcases hs : h.schedule_all with ⟨d, more⟩
  rw [hs] at hf hk
  refine Holds.foldlM (I := fun g => Keeps h g) hk (fun p _ g hg g' hg' => ?_) h' hf
  obtain ⟨c, hat, hg'⟩ := bind_eq_ok.mp hg'
  obtain ⟨c', he, hg'⟩ := bind_eq_ok.mp hg'
  cases hg'
  exact hg.trans (put_keeps (at_slot_eq hat) (error_evolves he))

lemma handle_broadcast_keeps {h h' : Watched F H} {signal : Signal}
    (hb : h.handle_broadcast signal = .ok h') :
    Keeps { h with timer := h.timer.after ALL signal } h' := by
  cases signal with
  | Message msg =>
    obtain ⟨⟨d, dead⟩, hd, hb⟩ := bind_eq_ok.mp hb
    exact (for_each_keeps (fun _ _ _ hs => send_message_evolves hs) hd).trans
      (finish_broadcast_keeps hb)
  | Close code reason =>
    obtain ⟨⟨d, dead⟩, hd, hb⟩ := bind_eq_ok.mp hb
    exact (for_each_keeps (fun _ _ _ hs => send_close_evolves hs) hd).trans
      (finish_broadcast_keeps hb)
  | Connect url =>
    obtain ⟨⟨d, res⟩, hd, hb⟩ := bind_eq_ok.mp hb
    rcases res with err | u
    · dsimp only at hb
      split at hb <;> cases hb
      exact connect_keeps hd
    · cases hb; exact connect_keeps hd
  | Shutdown =>
    obtain ⟨d, hd, hb⟩ := bind_eq_ok.mp hb
    exact (shutdown_keeps hd).trans (finish_broadcast_keeps hb)
  | Timeout delay event =>
    simp only [Io.Handler.handle_broadcast] at hb
    rcases hset : h.timer.set_timeout delay ⟨ALL, event⟩ with ⟨timer, err | timeout⟩
    · simp only [hset] at hb
      split at hb <;> cases hb
      simp only [Timer.after, hset]
      exact .refl _
    · simp only [hset] at hb
      obtain ⟨⟨conns, us⟩, hi, hb⟩ := bind_eq_ok.mp hb
      cases hb
      have hconns : Keeps h { h with connections := conns } := by
        refine iter_mut_keeps (fun c c' as hc => ?_) hi
        obtain ⟨d, hd, hc⟩ := bind_eq_ok.mp hc
        cases hc
        exact take_timeout_evolves hd
      simp only [Timer.after, hset]
      exact hconns.retime timer
  | Cancel timeout => cases hb; exact .refl _

lemma handle_directed_keeps {h h' : Watched F H} {t : Token} {id : UInt32} {signal : Signal}
    (hd : h.handle_directed t id signal = .ok h') :
    Keeps { h with timer := h.timer.after t signal } h' := by
  cases signal with
  | Message msg =>
    obtain ⟨d, hw, hd⟩ := bind_eq_ok.mp hd
    exact (with_id_keeps (fun _ _ _ hs => send_message_evolves hs) hw).trans
      (schedule_at_keeps hd)
  | Close code reason =>
    obtain ⟨d, hw, hd⟩ := bind_eq_ok.mp hd
    exact (with_id_keeps (fun _ _ _ hs => send_close_evolves hs) hw).trans
      (schedule_at_keeps hd)
  | Connect url =>
    obtain ⟨⟨d, res⟩, hc, hd⟩ := bind_eq_ok.mp hd
    have hk := connect_keeps hc
    rcases res with err | u
    · dsimp only at hd
      split at hd
      · exact hk.trans (error_at_keeps hd)
      · split at hd <;> cases hd
        exact hk
    · cases hd; exact hk
  | Shutdown =>
    obtain ⟨d, hs, hd⟩ := bind_eq_ok.mp hd
    exact (shutdown_keeps hs).trans (schedule_at_keeps hd)
  | Timeout delay event =>
    simp only [Io.Handler.handle_directed] at hd
    rcases hset : h.timer.set_timeout delay ⟨t, event⟩ with ⟨timer, err | timeout⟩
    · simp only [hset] at hd
      simp only [Timer.after, hset]
      exact error_at_keeps hd
    · simp only [hset] at hd
      simp only [Timer.after, hset]
      split at hd
      · rename_i c hget
        obtain ⟨c', hc', hd⟩ := bind_eq_ok.mp hd
        cases hd
        exact put_keeps hget (take_timeout_evolves hc')
      · cases hd; exact .refl _
  | Cancel timeout => cases hd; exact .refl _

/-- What a command does to the timer. -/
def timer_after (timer : Timer) (cmd : Command) : Timer :=
  if cmd.token = SYSTEM then timer else timer.after cmd.token cmd.signal

lemma handle_queue_keeps {h h' : Watched F H} {cmd : Command}
    (hq : h.handle_queue cmd = .ok h') :
    Keeps { h with timer := timer_after h.timer cmd } h' := by
  unfold Io.Handler.handle_queue at hq
  unfold timer_after
  split at hq
  · rename_i hsys
    cases hq
    rw [if_pos hsys]
    exact .refl _
  · rename_i hsys
    rw [if_neg hsys]
    split at hq
    · rename_i hall
      rw [hall]
      exact handle_broadcast_keeps hq
    · exact handle_directed_keeps hq

/-! ### Events -/

lemma trigger_evolves {c c' : Connection (Recorded H)} {event : Token}
    (h : Io.Handler.trigger event c = .ok c') : Evolves c c' := by
  have hn := timeout_triggered_evolves c event
  unfold Io.Handler.trigger at h
  split at h <;> rename_i heq <;> rw [heq] at hn
  · cases h; exact hn
  · exact hn.trans (error_evolves h)

/-- What is handled of a timeout: nothing when its slot is empty, and otherwise the connection there
hears of it and is looked at. -/
lemma handle_timeout_cases {h h' : Watched F H} {timeout : Timeout}
    (ht : h.handle_timeout timeout = .ok h') :
    h.connections.get timeout.connection = none ∧ h' = h ∨
      ∃ c d, h.connections.get timeout.connection = some c ∧
        Io.Handler.trigger timeout.event c = .ok d ∧
        (h.put timeout.connection d).check_active (d.events.is_readable || d.events.is_writable)
          timeout.connection = .ok h' := by
  unfold Io.Handler.handle_timeout at ht
  split at ht
  · rename_i hn
    cases ht
    exact Or.inl ⟨hn, rfl⟩
  · rename_i c hc
    obtain ⟨d, hd, ht⟩ := bind_eq_ok.mp ht
    exact Or.inr ⟨c, d, hc, hd, ht⟩

/-- A timeout that is due is handled when it is still pending. -/
lemma expire_cases {h h' : Watched F H} {number : ℕ} (he : h.expire number = .ok h') :
    h.timer.find number = none ∧ h' = h ∨
      ∃ timeout, h.timer.find number = some timeout ∧
        ({ h with timer := h.timer.expire number } : Watched F H).handle_timeout timeout =
          .ok h' := by
  unfold Io.Handler.expire at he
  split at he
  · rename_i hn
    cases he
    exact Or.inl ⟨hn, rfl⟩
  · rename_i timeout hf
    exact Or.inr ⟨timeout, hf, he⟩

lemma handle_timeout_keeps {h h' : Watched F H} {timeout : Timeout}
    (ht : h.handle_timeout timeout = .ok h') : Keeps h h' := by
  rcases handle_timeout_cases ht with ⟨-, rfl⟩ | ⟨c, d, hc, hd, ht⟩
  · exact .refl h'
  · exact (put_keeps hc (trigger_evolves hd)).trans (check_active_keeps ht)

lemma expire_keeps {h h' : Watched F H} {number : ℕ} (he : h.expire number = .ok h') :
    Keeps { h with timer := h.timer.expire number } h' := by
  rcases expire_cases he with ⟨hf, rfl⟩ | ⟨timeout, -, ht⟩
  · rw [Timer.expire_of_find_none hf]
    exact .refl _
  · exact handle_timeout_keeps ht

omit [Handler H] [Host] in
lemma try_next_evolves {c c' : Connection (Recorded H)} {os os' : Os} {err : Error}
    {next : Bool} (h : Io.Handler.try_next c os err = .ok (c', os', next)) : Evolves c c' := by
  unfold Io.Handler.try_next at h
  split at h
  · obtain ⟨⟨d, os'', res⟩, hr, h⟩ := bind_eq_ok.mp h
    rcases res with e | u <;> cases h <;> exact reset_evolves hr
  · cases h; exact .refl c

lemma recover_keeps {h h' : Watched F H} {t : Token} {err : Error} {done : Bool}
    (hr : h.recover t err = .ok (h', done)) : Keeps h h' := by
  obtain ⟨c, hat, hr⟩ := bind_eq_ok.mp hr
  obtain ⟨⟨c', os, next⟩, hn, hr⟩ := bind_eq_ok.mp hr
  have hput := (keeps_with h os h.state).trans
    (put_keeps (h := { h with poll := os }) (at_slot_eq hat) (try_next_evolves hn))
  have hget := get_put (h := { h with poll := os }) (at_slot_eq hat) c'
  dsimp only at hr
  split at hr
  · split at hr
    · cases hr
      exact hput.trans (keeps_with _ _ _)
    · rename_i os' e _
      obtain ⟨d, hd, hr⟩ := bind_eq_ok.mp hr
      obtain ⟨g, hg, hr⟩ := bind_eq_ok.mp hr
      cases hr
      exact ((hput.trans (keeps_with _ os' _)).trans
        (put_keeps hget (error_evolves hd))).trans (lose_keeps hg)
  · obtain ⟨d, hd, hr⟩ := bind_eq_ok.mp hr
    cases hr
    exact hput.trans (put_keeps hget (error_evolves hd))

lemma attempt_keeps {h h' : Watched F H} {t : Token} {ready : Ready → Bool} {events : Ready}
    {act : Connection (Recorded H) → Except Panic (Connection (Recorded H) × Result Unit)}
    {done : Bool} (hf : ∀ c c' res, act c = .ok (c', res) → Evolves c c')
    (ha : h.attempt t ready events act = .ok (h', done)) : Keeps h h' := by
  obtain ⟨c, hat, ha⟩ := bind_eq_ok.mp ha
  split at ha
  · obtain ⟨⟨c', res⟩, hc', ha⟩ := bind_eq_ok.mp ha
    have hput := put_keeps (at_slot_eq hat) (hf c c' res hc')
    rcases res with err | u
    · exact hput.trans (recover_keeps ha)
    · cases ha; exact hput
  · cases ha; exact .refl h

lemma handle_socket_keeps {h h' : Watched F H} {t : Token} {events : Ready}
    (hs : h.handle_socket t events = .ok h') : Keeps h h' := by
  obtain ⟨⟨d, done⟩, hd, hs⟩ := bind_eq_ok.mp hs
  have hread := attempt_keeps (fun _ _ _ hr => read_evolves hr) hd
  dsimp only at hs
  split at hs
  · cases hs; exact hread
  · obtain ⟨⟨e, done'⟩, he, hs⟩ := bind_eq_ok.mp hs
    have hwrite := hread.trans (attempt_keeps (fun c c' res hw => by
      have := write_evolves c
      rwa [Except.ok.inj hw] at this) he)
    dsimp only at hs
    split at hs
    · cases hs; exact hwrite
    · obtain ⟨c, -, hs⟩ := bind_eq_ok.mp hs
      exact hwrite.trans (check_active_keeps hs)

/-- What comes of an event of the listener: nothing, an answer of the poll that is no peer, or a
peer that is accepted or turned away. -/
lemma handle_listener_cases {h h' : Watched F H} {events : Ready}
    (hl : h.handle_listener events = .ok h') :
    h' = h ∨ h' = { h with poll := h.poll.accept.1 } ∨
      ∃ sock res, ({ h with poll := h.poll.accept.1 } : Watched F H).accept sock =
        .ok (h', res) := by
  unfold Io.Handler.handle_listener at hl
  split at hl
  · split at hl
    · cases hl
    · rcases hacc : h.poll.accept with ⟨os, err | sock⟩ <;> rw [hacc] at hl
      · cases hl
        exact Or.inr (Or.inl rfl)
      · obtain ⟨⟨d, res⟩, hd, hl⟩ := bind_eq_ok.mp hl
        refine Or.inr (Or.inr ⟨sock, res, ?_⟩)
        rcases res with err | u
        · dsimp only at hl
          split at hl <;> cases hl
          exact hd
        · cases hl
          exact hd
  · cases hl
    exact Or.inl rfl

lemma handle_listener_keeps {h h' : Watched F H} {events : Ready}
    (hl : h.handle_listener events = .ok h') : Keeps h h' := by
  rcases handle_listener_cases hl with rfl | rfl | ⟨sock, res, ha⟩
  · exact .refl h'
  · exact keeps_with h _ _
  · exact (keeps_with h _ _).trans (accept_keeps ha)

/-- An event of the queue takes one command, if there is one. -/
lemma handle_commands_keeps {h h' : Watched F H} (hc : h.handle_commands = .ok h') :
    match h.queue.commands with
    | [] => Keeps h h'
    | cmd :: rest => Keeps { h with
        queue := ⟨h.queue.bound, rest⟩, timer := timer_after h.timer cmd } h' := by
  obtain ⟨d, hd, hc⟩ := bind_eq_ok.mp hc
  cases hc
  rcases hcmds : h.queue.commands with _ | ⟨cmd, rest⟩
  · rw [Io.Handler.take_command_nil hcmds] at hd
    cases hd
    exact keeps_with h _ h.state
  · rw [Io.Handler.take_command_cons hcmds] at hd
    exact (handle_queue_keeps (h := { h with queue := ⟨h.queue.bound, rest⟩ }) hd).trans
      (keeps_with d _ d.state)

/-- The timeouts that are due are given out one by one. -/
lemma expire_all_keeps {h h' : Watched F H} {due : List ℕ}
    (he : due.foldlM Io.Handler.expire h = .ok h') :
    ∃ timer, Keeps { h with timer := timer } h' ∧ h.timer.Drops timer := by
  refine Holds.foldlM (I := fun g => ∃ timer, Keeps { h with timer := timer } g ∧
    h.timer.Drops timer) ⟨h.timer, .refl h, .refl _⟩ (fun number _ g hg g' hg' => ?_) h' he
  obtain ⟨timer, hk, hd⟩ := hg
  have htimer : g.timer = timer := hk.timer
  refine ⟨_, (hk.retime (g.timer.expire number)).trans (expire_keeps hg'), ?_⟩
  rw [htimer]
  exact hd.trans (Timer.expire_drops timer number)

lemma handle_event_keeps {h h' : Watched F H} {t : Token} {events : Ready}
    (he : h.handle_event t events = .ok h') :
    ∃ queue timer, Keeps { h with queue := queue, timer := timer } h' := by
  unfold Io.Handler.handle_event at he
  split at he
  · cases he
  · split at he
    · exact ⟨h.queue, h.timer, handle_listener_keeps he⟩
    · split at he
      · obtain ⟨timer, hk, -⟩ := expire_all_keeps he
        exact ⟨h.queue, timer, hk⟩
      · split at he
        · have hk := handle_commands_keeps he
          split at hk
          · exact ⟨h.queue, h.timer, hk⟩
          · exact ⟨_, _, hk⟩
        · exact ⟨h.queue, h.timer, handle_socket_keeps he⟩

/-! ### Steps -/

omit [Factory F H] [Handler H] [Host] in
lemma supply_keeps (h : Watched F H) (t : Token) (a : Io.Answers) :
    Keeps { h with timer := { h.timer with due := a.due } } (h.supply t a) := by
  unfold Io.Handler.supply
  rcases hget : h.connections.get t with _ | c
  · exact .of_slots rfl rfl rfl rfl rfl rfl rfl rfl
  · have hev : Evolves c { c with
        socket := { c.socket with reads := a.reads, writes := a.writes } } :=
      .of_handler ⟨rfl, rfl, rfl⟩ rfl
    exact ((put_keeps hget hev).retime _).trans (.of_slots rfl rfl rfl rfl rfl rfl rfl rfl)

lemma step_keeps {h h' : Watched F H} {s : Io.Step} (hs : h.step s = .ok h') :
    ∃ queue timer, Keeps { h with queue := queue, timer := timer } h' := by
  cases s with
  | input i =>
    cases i with
    | send cmd =>
      cases hs
      unfold Io.Handler.send
      split
      · exact ⟨_, h.timer, .refl _⟩
      · exact ⟨h.queue, h.timer, .refl h⟩
    | event evt =>
      obtain ⟨queue, timer, hk⟩ := handle_event_keeps hs
      have hsup := supply_keeps h evt.token evt.answers
      exact ⟨queue, timer, ((hsup.requeue queue).retime timer).trans hk⟩
  | interrupted =>
    cases hs
    unfold Io.Handler.interrupted
    split
    · exact ⟨h.queue, h.timer, keeps_with h h.poll _⟩
    · exact ⟨h.queue, h.timer, .refl h⟩
  | check_count => cases hs; exact ⟨h.queue, h.timer, check_count_keeps h⟩

/-- **What a run keeps.** -/
theorem run_keeps {h h' : Watched F H} {steps : List Io.Step}
    (hr : run Io.Handler.step h steps = .ok h') :
    ∃ queue timer, Keeps { h with queue := queue, timer := timer } h' := by
  induction steps generalizing h with
  | nil => cases hr; exact ⟨h'.queue, h'.timer, .refl h'⟩
  | cons s steps ih =>
    obtain ⟨d, hd, hr⟩ := run_cons.mp hr
    obtain ⟨q, t, hq⟩ := step_keeps hd
    obtain ⟨q', t', hq'⟩ := ih hr
    exact ⟨q', t', ((hq.requeue q').retime t').trans hq'⟩

/-! ### Reached states -/

/-- What holds of every state a run reaches: every connection is in the slot, and has the id,
that its sender was given. -/
structure Sound (h : Watched F H) : Prop where
  capacity : h.connections.capacity = h.settings.max_connections
  bounded : h.settings.max_connections ≤ isize_MAX
  numbered : Numbered h
  token : ∀ t c, h.connections.get t = some c → c.token = t
  settings : ∀ t c, h.connections.get t = some c → c.settings = h.settings
  sender : ∀ t c, h.connections.get t = some c →
    h.factory.made[c.handler.birth]? = some ⟨t, c.connection_id⟩

omit [Factory F H] [Handler H] in
lemma started_sound {inner : F} {settings : Settings} {addr : Option SocketAddr}
    {h : Watched F H} (hs : Io.Handler.started (Ledger.blank inner) settings addr = .ok h) :
    Sound h := by
  have hf := Io.Handler.started_fresh hs
  have hempty : ∀ {t c}, h.connections.get t ≠ some c := fun {t c} hc => by
    rw [hf.connections, Slab.get_with_capacity] at hc
    cases hc
  have hledger : h.factory.made = [] ∧ h.factory.lost = [] := by
    rw [hf.factory]
    exact ⟨rfl, rfl⟩
  refine ⟨?_, ?_, ⟨⟨?_, ?_⟩, ?_, ?_⟩, fun _ _ hc => absurd hc hempty,
    fun _ _ hc => absurd hc hempty, fun _ _ hc => absurd hc hempty⟩
  · rw [hf.connections, hf.settings, Slab.with_capacity_capacity]
  · rw [hf.settings]; exact hf.bounded
  · simp [hledger.1, hf.next_connection_id]
  · simp [hledger.1]
  · simp [hledger.1]
  · rw [hledger.1, hledger.2]
    exact ⟨fun _ _ hc => absurd hc hempty, List.forall_mem_nil _, fun _ _ hc => absurd hc hempty,
      fun _ _ _ _ hc => absurd hc hempty, List.nodup_nil⟩

omit [Factory F H] [Handler H] [Host] in
/-- A sound state stays sound; what waits in the queue and the timer does not matter. -/
lemma Sound.of_keeps {h h' : Watched F H} {queue : SyncChannel} {timer : Timer} (hs : Sound h)
    (hk : Keeps { h with queue := queue, timer := timer } h') : Sound h' := by
  have hset : h'.settings = h.settings := hk.settings
  have hslot : ∀ t c, h'.connections.get t = some c → c.token = t ∧ c.settings = h.settings ∧
      h'.factory.made[c.handler.birth]? = some ⟨t, c.connection_id⟩ := by
    intro t c hc
    rcases hk.descends t c hc with ⟨d, hd, he⟩ | ⟨-, ht, hset, hm, -⟩
    · refine ⟨he.same.token.trans (hs.token t d hd),
        he.same.settings.trans (hs.settings t d hd), ?_⟩
      rw [he.birth, he.same.connection_id]
      exact getElem?_of_prefix hk.made (hs.sender t d hd)
    · exact ⟨ht, hset, hm⟩
  refine ⟨?_, by rw [hset]; exact hs.bounded, ?_, fun t c hc => (hslot t c hc).1,
    fun t c hc => (hslot t c hc).2.1.trans hset.symm, fun t c hc => (hslot t c hc).2.2⟩
  · rw [hset, ← hs.capacity]
    exact hk.capacity
  · exact hk.numbered hs.numbered.waiting

lemma step_sound {h h' : Watched F H} {s : Io.Step} (hs : Sound h) (hst : h.step s = .ok h') :
    Sound h' := by
  obtain ⟨queue, timer, hk⟩ := step_keeps hst
  exact hs.of_keeps hk

/-- **Reached states are sound.** -/
theorem execute_sound {inner : F} {settings : Settings} {addr : Option SocketAddr}
    {steps : List Io.Step} {h : Watched F H}
    (hr : Io.Handler.execute (Ledger.blank inner) settings addr steps = .ok h) : Sound h := by
  obtain ⟨h0, h0s, hr⟩ := bind_eq_ok.mp hr
  exact run_inv_true (fun _ _ _ hs hst => step_sound hs hst) (started_sound h0s) hr

omit [Factory F H] [Handler H] [Host] in
/-- The slots are too few to be mistaken for the tokens of the loop itself. -/
lemma Sound.lt_system {h : Watched F H} (hs : Sound h) {t : ℕ}
    (ht : t < h.connections.capacity) : t < SYSTEM := by
  have h1 := hs.capacity
  have h2 := hs.bounded
  unfold SYSTEM usize_MAX
  unfold isize_MAX at h2
  omega

omit [Factory F H] [Handler H] [Host] in
/-- No slot has a token of the loop, so its events bring nothing to any socket. -/
lemma Sound.supply_slots {h : Watched F H} (hs : Sound h) {t : ℕ} (ht : SYSTEM ≤ t)
    (a : Io.Answers) : (h.supply t a).connections = h.connections := by
  unfold Io.Handler.supply
  rcases hget : h.connections.get t with _ | c
  · rfl
  · exact absurd (hs.lt_system (Slab.get_lt_capacity hget)) (Nat.not_lt.mpr ht)

omit [Factory F H] [Handler H] [Host] in
/-- A sender names a slot. -/
lemma Sound.sender_lt {h : Watched F H} (hs : Sound h) {k : ℕ}
    {s : Sender} (hk : h.factory.made[k]? = some s) : s.token < SYSTEM :=
  hs.lt_system (hs.numbered.slots s (List.mem_of_getElem? hk))

omit [Factory F H] [Handler H] [Host] in
/-- While the ids have not run out, the id tells the handlers apart. -/
lemma Sound.birth_of_id {h : Watched F H} (hs : Sound h)
    (hcount : h.factory.made.length < 2 ^ 32) {k : ℕ} {s : Sender}
    (hk : h.factory.made[k]? = some s) {t : Token} {c : Connection (Recorded H)}
    (hc : h.connections.get t = some c) (hid : c.connection_id = s.connection_id) :
    c.handler.birth = k ∧ t = s.token := by
  have hm := hs.sender t c hc
  have hb := hs.numbered.counted.2 _ _ hm
  have hk' := hs.numbered.counted.2 _ _ hk
  have hlt : ∀ {i : ℕ} {x : Sender}, h.factory.made[i]? = some x → i < 2 ^ 32 := fun hi =>
    lt_trans (List.getElem?_eq_some_iff.mp hi).1 hcount
  have heq : c.handler.birth = k := by
    have := congrArg UInt32.toNat ((hb.symm.trans hid).trans hk')
    rwa [UInt32.toNat_ofNat_of_lt' (hlt hm), UInt32.toNat_ofNat_of_lt' (hlt hk)] at this
  refine ⟨heq, ?_⟩
  rw [heq, hk, Option.some.injEq] at hm
  rw [hm]

end Factories

/-! ### A server to run -/

/-- The settings with no reason to panic. -/
def calm : Settings := { panic_on_internal := false }

/-- A server whose handlers are content with every message, after some steps. -/
def serve (settings : Settings) (steps : List Io.Step) : Except Panic (Watched (Sender → M) M) :=
  @Io.Handler.execute _ _ _ _ plain (Ledger.blank fun _ => {}) settings
    (some ⟨"127.0.0.1:3012"⟩)
    steps

/-- One more step of such a server. -/
def serve_on (h : Watched (Sender → M) M) (s : Io.Step) : Except Panic (Watched (Sender → M) M) :=
  @Io.Handler.step _ _ _ _ plain h s

/-- A peer connects. -/
def accepts_peer : Io.Step := .on ALL readable { accepts := [.ok .fresh] }

/-- The peer in a slot closes. -/
def peer_closes (token : Token) : Io.Step := .on token readable { reads := [.ok []] }

/-- The queue has a command. -/
def takes_command : Io.Step := .on QUEUE readable {}

end XnetSocket.Custody
