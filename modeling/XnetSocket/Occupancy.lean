import XnetSocket.Custody

/-!
Steps that neither bring nor cost a connection.

What is done to one connection leaves the others alone. All commands but connection requests leave
every connection in its slot, even one that has been told of a fatal error.
-/

namespace XnetSocket.Occupancy

open Buffer Runs Connection Evolution Custody

variable {F H : Type}

/-- The loop is as active as it was, the same slots are vacant, and no handler has been made or
passed back. -/
structure Steady (h h' : Watched F H) : Prop where
  state : h'.state = h.state
  vacant : ∀ t, h'.connections.get t = none ↔ h.connections.get t = none
  made : h'.factory.made = h.factory.made
  lost : h'.factory.lost = h.factory.lost

lemma Steady.refl (h : Watched F H) : Steady h h := ⟨rfl, fun _ => Iff.rfl, rfl, rfl⟩

lemma Steady.trans {h d h' : Watched F H} (hd : Steady h d) (hh : Steady d h') : Steady h h' :=
  ⟨hh.state.trans hd.state, fun t => (hh.vacant t).trans (hd.vacant t), hh.made.trans hd.made,
    hh.lost.trans hd.lost⟩

lemma Steady.len {h h' : Watched F H} (hs : Steady h h') :
    h'.connections.len = h.connections.len :=
  Slab.len_congr hs.vacant

lemma Steady.of_slots {h h' : Watched F H} (hst : h'.state = h.state)
    (hs : h'.connections = h.connections) (hf : h'.factory = h.factory) : Steady h h' :=
  ⟨hst, fun t => by rw [hs], by rw [hf], by rw [hf]⟩

/-- Every connection is still there, perhaps later in its life. -/
lemma Steady.evolves {h h' : Watched F H} (hs : Steady h h') (hk : Keeps h h') {t : Token}
    {c : Connection (Recorded H)} (hc : h.connections.get t = some c) :
    ∃ c', h'.connections.get t = some c' ∧ Evolves c c' := by
  have hne : h'.connections.get t ≠ none := fun h0 => by
    rw [(hs.vacant t).mp h0] at hc
    cases hc
  obtain ⟨c', hc'⟩ := Option.ne_none_iff_exists'.mp hne
  refine ⟨c', hc', ?_⟩
  rcases hk.descends t c' hc' with ⟨d, hd, he⟩ | ⟨hb, -, -, hm, -⟩
  · rw [hc] at hd
    cases hd
    exact he
  · -- no handler has been made
    rw [hs.made] at hm
    have := (List.getElem?_eq_some_iff.mp hm).1
    omega

lemma put_steady (h : Watched F H) (t : Token) (c : Connection (Recorded H)) :
    Steady h (h.put t c) :=
  ⟨rfl, fun _ => Slab.get_set_none, rfl, rfl⟩

/-! ### One connection -/

/-- Only the connection in slot `t` has changed; nothing was refused, and nothing passed back. -/
structure Handled (h h' : Watched F H) (t : Token) (c c' : Connection (Recorded H)) : Prop where
  before : h.connections.get t = some c
  after : h'.connections.get t = some c'
  others : ∀ j, t ≠ j → h'.connections.get j = h.connections.get j
  refused : h'.poll.refused = h.poll.refused
  lost : h'.factory.lost = h.factory.lost
  evolves : Evolves c c'

lemma handled_refl {h : Watched F H} {t : Token} {c : Connection (Recorded H)}
    (hc : h.connections.get t = some c) : Handled h h t c c :=
  ⟨hc, hc, fun _ _ => rfl, rfl, rfl, .refl c⟩

lemma put_handled {h : Watched F H} {t : Token} {c c' : Connection (Recorded H)}
    (hc : h.connections.get t = some c) (he : Evolves c c') : Handled h (h.put t c') t c c' :=
  ⟨hc, get_put hc c', fun _ hj => Slab.get_set_ne hj, rfl, rfl, he⟩

lemma Handled.trans {h d h' : Watched F H} {t : Token} {b c e : Connection (Recorded H)}
    (hd : Handled h d t b c) (hh : Handled d h' t c e) : Handled h h' t b e :=
  ⟨hd.before, hh.after, fun j hj => (hh.others j hj).trans (hd.others j hj),
    hh.refused.trans hd.refused, hh.lost.trans hd.lost, hd.evolves.trans hh.evolves⟩

/-! ### Commands -/

lemma schedule_steady (h : Watched F H) (c : Connection (Recorded H)) :
    Steady h (h.schedule c).1 := by
  unfold Io.Handler.schedule
  split <;> exact .of_slots rfl rfl rfl

lemma schedule_all_steady (h : Watched F H) : Steady h h.schedule_all.1 := by
  unfold Io.Handler.schedule_all
  refine List.foldlRecOn (motive := fun acc : Watched F H × List (Token × Error) =>
    Steady h acc.1) _ _ (.refl h) ?_
  intro acc hacc slot _
  unfold Io.Handler.schedule_slot
  split
  · rename_i c _
    have hs := hacc.trans (schedule_steady acc.1 c)
    split <;> rename_i hsch <;> rw [hsch] at hs <;> exact hs
  · exact hacc

lemma iter_mut_steady {h : Watched F H} {A : Type}
    {f : Connection (Recorded H) → Except Panic (Connection (Recorded H) × List A)}
    {conns : Slab (Connection (Recorded H))} {as : List A}
    (hi : h.connections.iter_mut f = .ok (conns, as)) : Steady h { h with connections := conns } :=
  ⟨rfl, (Slab.iter_mut_visited hi).vacant, rfl, rfl⟩

variable [Handler H] [Host]

lemma with_id_steady {h h' : Watched F H} {t : Token} {id : UInt32}
    {f : Connection (Recorded H) → Except Panic (Connection (Recorded H) × Result Unit)}
    (hw : h.with_id t id f = .ok h') : Steady h h' := by
  unfold Io.Handler.with_id at hw
  split at hw
  · split at hw
    · obtain ⟨⟨d, res⟩, -, hw⟩ := bind_eq_ok.mp hw
      rcases res with err | u
      · obtain ⟨e, -, hw⟩ := bind_eq_ok.mp hw
        cases hw
        exact put_steady h t e
      · cases hw
        exact put_steady h t d
    · cases hw; exact .refl h
  · cases hw; exact .refl h

lemma error_at_steady {h h' : Watched F H} {t : Token} {err : Error}
    (he : h.error_at t err = .ok h') : Steady h h' := by
  unfold Io.Handler.error_at at he
  split at he
  · obtain ⟨d, -, he⟩ := bind_eq_ok.mp he
    cases he
    exact put_steady h t d
  · cases he; exact .refl h

lemma schedule_at_steady {h h' : Watched F H} {t : Token} (hs : h.schedule_at t = .ok h') :
    Steady h h' := by
  unfold Io.Handler.schedule_at at hs
  split at hs
  · rename_i c _
    have hsched := schedule_steady h c
    rcases hsch : h.schedule c with ⟨d, err | u⟩ <;> rw [hsch] at hs hsched
    · obtain ⟨c', -, hs⟩ := bind_eq_ok.mp hs
      cases hs
      exact hsched.trans (put_steady d t c')
    · cases hs
      exact hsched
  · cases hs; exact .refl h

omit [Handler H] [Host] in
lemma for_each_steady {h h' : Watched F H} {dead : List (Token × Error)}
    {f : Connection (Recorded H) → Except Panic (Connection (Recorded H) × Result Unit)}
    (he : h.for_each f = .ok (h', dead)) : Steady h h' := by
  obtain ⟨⟨conns, as⟩, hi, he⟩ := bind_eq_ok.mp he
  cases he
  exact iter_mut_steady hi

lemma finish_broadcast_steady {h h' : Watched F H} {dead : List (Token × Error)}
    (hf : h.finish_broadcast dead = .ok h') : Steady h h' := by
  unfold Io.Handler.finish_broadcast at hf
  have hs := schedule_all_steady h
  rcases hall : h.schedule_all with ⟨d, more⟩
  rw [hall] at hf hs
  refine Holds.foldlM (I := fun g => Steady h g) hs (fun p _ g hg g' hg' => ?_) h' hf
  obtain ⟨c, -, hg'⟩ := bind_eq_ok.mp hg'
  obtain ⟨c', -, hg'⟩ := bind_eq_ok.mp hg'
  cases hg'
  exact hg.trans (put_steady g p.1 c')

variable [Factory F H]

/-- A command asks for a connection. -/
def connects : Signal → Bool
  | .Connect _ => true
  | _ => false

omit [Host] in
lemma shutdown_steady {h h' : Watched F H} (hs : h.shutdown = .ok h') :
    Steady { h with state := .Inactive } h' := by
  obtain ⟨⟨conns, us⟩, hi, hs⟩ := bind_eq_ok.mp hs
  dsimp only at hs
  split at hs <;> cases hs
  exact ⟨rfl, (Slab.iter_mut_visited hi).vacant, rfl, rfl⟩

/-- The state of the loop after a signal. -/
def state_after (h : Watched F H) (signal : Signal) : Io.State :=
  if signal = .Shutdown then .Inactive else h.state

lemma handle_broadcast_steady {h h' : Watched F H} {signal : Signal}
    (hc : connects signal = false) (hb : h.handle_broadcast signal = .ok h') :
    Steady { h with state := state_after h signal } h' := by
  cases signal with
  | Message msg =>
    obtain ⟨⟨d, dead⟩, hd, hb⟩ := bind_eq_ok.mp hb
    exact (for_each_steady hd).trans (finish_broadcast_steady hb)
  | Close code reason =>
    obtain ⟨⟨d, dead⟩, hd, hb⟩ := bind_eq_ok.mp hb
    exact (for_each_steady hd).trans (finish_broadcast_steady hb)
  | Connect url => cases hc
  | Shutdown =>
    obtain ⟨d, hd, hb⟩ := bind_eq_ok.mp hb
    exact (shutdown_steady hd).trans (finish_broadcast_steady hb)
  | Timeout delay event =>
    simp only [Io.Handler.handle_broadcast] at hb
    split at hb
    · obtain ⟨⟨conns, us⟩, hi, hb⟩ := bind_eq_ok.mp hb
      cases hb
      exact ⟨rfl, (Slab.iter_mut_visited hi).vacant, rfl, rfl⟩
    · split at hb <;> cases hb
      exact .of_slots rfl rfl rfl
  | Cancel timeout => cases hb; exact .of_slots rfl rfl rfl

lemma handle_directed_steady {h h' : Watched F H} {t : Token} {id : UInt32} {signal : Signal}
    (hc : connects signal = false) (hd : h.handle_directed t id signal = .ok h') :
    Steady { h with state := state_after h signal } h' := by
  cases signal with
  | Message msg =>
    obtain ⟨d, hw, hd⟩ := bind_eq_ok.mp hd
    exact (with_id_steady hw).trans (schedule_at_steady hd)
  | Close code reason =>
    obtain ⟨d, hw, hd⟩ := bind_eq_ok.mp hd
    exact (with_id_steady hw).trans (schedule_at_steady hd)
  | Connect url => cases hc
  | Shutdown =>
    obtain ⟨d, hs, hd⟩ := bind_eq_ok.mp hd
    exact (shutdown_steady hs).trans (schedule_at_steady hd)
  | Timeout delay event =>
    simp only [Io.Handler.handle_directed] at hd
    split at hd
    · rename_i timer timeout _
      have htimer : Steady h { h with timer := timer } := .of_slots rfl rfl rfl
      split at hd
      · obtain ⟨c', -, hd⟩ := bind_eq_ok.mp hd
        cases hd
        exact htimer.trans (put_steady _ t c')
      · cases hd
        exact htimer
    · rename_i timer err _
      have htimer : Steady h { h with timer := timer } := .of_slots rfl rfl rfl
      exact htimer.trans (error_at_steady hd)
  | Cancel timeout => cases hd; exact .of_slots rfl rfl rfl

end XnetSocket.Occupancy
