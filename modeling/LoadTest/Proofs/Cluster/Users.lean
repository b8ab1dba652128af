import LoadTest.Proofs.Cluster.Traffic
/-!
# Correlation ids of users

The users of a worker get the correlation ids 1, 2 and so on. The ids are 64-bit integers,
so they are distinct until a worker has got more than 2 ^ 64 users.
-/

namespace LoadTest.Cluster

/-- The users of a worker, the oldest first. -/
def State.usersOf (s : State) (worker : Nat) : List User :=
  s.users.filter (·.worker = worker)

/-- The counters of correlation ids have not wrapped around. -/
def State.Unwrapped (s : State) : Prop := ∀ worker, (s.usersOf worker).length ≤ 2 ^ 64

/-- The users of each worker are numbered through. -/
structure Numbered (s : State) : Prop where
  homes : ∀ u ∈ s.users, u.worker < s.workers.length
  last : ∀ i w, s.workers[i]? = some w → w.table.lastUid = UInt64.ofNat (s.usersOf i).length
  uids : ∀ i, (s.usersOf i).map (·.consumer.uid) =
    (List.range' 1 (s.usersOf i).length).map UInt64.ofNat

namespace Numbered

variable {s s' : State}

private theorem getElem?_roster (s : State) (i : Nat) :
    s.roster[i]? = (s.workers[i]?).map fun w => (w.client, w.table.lastUid) := by
  rw [State.roster, List.getElem?_map]

theorem keeps (h : Numbered s) (hk : Keeps s s') : Numbered s' := by
  have hof : ∀ i, s'.usersOf i = s.usersOf i := by
    intro i
    rw [State.usersOf, State.usersOf, hk.sameUsers]
  have hlength : s'.workers.length = s.workers.length := by
    have hroster := congrArg List.length hk.sameRoster
    simpa [State.roster] using hroster
  refine ⟨?_, ?_, ?_⟩
  · rw [hk.sameUsers, hlength]
    exact h.homes
  · intro i w' hw'
    have hi : s'.roster[i]? = some (w'.client, w'.table.lastUid) := by
      rw [getElem?_roster, hw']
      rfl
    rw [hk.sameRoster, getElem?_roster, Option.map_eq_some_iff] at hi
    obtain ⟨w, hw, hpair⟩ := hi
    rw [hof, ← h.last i w hw]
    exact (congrArg (·.2) hpair).symm
  · intro i
    rw [hof]
    exact h.uids i

/-- A worker that has only just connected has no users. -/
theorem connect (h : Numbered s) {client : String} {options : ConsumerOptions}
    {keepsEvents : Bool} (hs : s.connect? client options keepsEvents = some s') :
    Numbered s' := by
  obtain ⟨-, rfl⟩ := State.connect?_cases hs
  refine ⟨?_, ?_, h.uids⟩
  · intro u hu
    have hlt := h.homes u hu
    rw [List.length_append]
    omega
  · intro i w hw
    rcases Nat.lt_or_ge i s.workers.length with hi | hi
    · exact h.last i w ((List.getElem?_append_left hi).symm.trans hw)
    · have hnone : s.usersOf i = [] := by
        rw [State.usersOf, List.filter_eq_nil_iff]
        intro u hu
        have hlt := h.homes u hu
        simp only [decide_eq_true_eq]
        omega
      rw [List.getElem?_append_right hi] at hw
      have hmem := List.mem_of_getElem? hw
      rw [List.mem_singleton.1 hmem]
      show (0 : UInt64) = UInt64.ofNat (s.usersOf i).length
      rw [hnone]
      rfl

/-- A worker gives its next user the next number. -/
theorem join (h : Numbered s) {worker : Nat} {identifier : String}
    (hs : s.join? worker identifier = some s') : Numbered s' := by
  obtain ⟨w, hw, rfl⟩ := State.join?_cases hs
  have hlt : worker < s.workers.length := (List.getElem?_eq_some_iff.1 hw).1
  have hlast := h.last worker w hw
  have hof : ∀ i, (s.users ++ [(⟨worker, ⟨identifier, w.table.lastUid + 1⟩⟩ : User)]).filter
      (·.worker = i) = s.usersOf i ++
        if worker = i then [⟨worker, ⟨identifier, w.table.lastUid + 1⟩⟩] else [] := by
    intro i
    rw [List.filter_append, State.usersOf]
    by_cases hi : worker = i <;> simp [hi]
  refine ⟨?_, ?_, ?_⟩
  · intro u hu
    show u.worker < (s.workers.modify worker _).length
    rw [List.length_modify]
    rcases List.mem_append.1 hu with hu | hu
    · exact h.homes u hu
    · rw [List.mem_singleton.1 hu]
      exact hlt
  · intro i v hv
    have hv : (s.workers.modify worker _)[i]? = some v := hv
    show v.table.lastUid = UInt64.ofNat (List.filter _ _).length
    rw [hof]
    rw [List.getElem?_modify] at hv
    by_cases hi : worker = i
    · rw [← hi, hw] at hv
      simp only [if_true, Option.map_eq_map, Option.map_some, Option.some.injEq] at hv
      rw [← hv, if_pos hi, List.length_append, ← hi]
      show w.table.lastUid + 1 = UInt64.ofNat ((s.usersOf worker).length + 1)
      rw [hlast, UInt64.ofNat_add]
      rfl
    · rw [if_neg hi, List.append_nil]
      obtain ⟨v', hv', rfl⟩ := Option.map_eq_some_iff.1 hv
      rw [if_neg hi]
      exact h.last i v' hv'
  · intro i
    show (List.filter _ _).map _ = (List.range' 1 (List.filter _ _).length).map _
    rw [hof]
    by_cases hi : worker = i
    · rw [if_pos hi, List.map_append, h.uids, List.length_append, ← hi]
      show _ ++ [w.table.lastUid + 1] = _
      rw [hlast, List.length_singleton, List.range'_concat, List.map_append]
      congr 1
      simp [UInt64.ofNat_add, UInt64.add_comm]
    · rw [if_neg hi, List.append_nil]
      exact h.uids i

/-- The users of a worker have distinct correlation ids. -/
theorem uids_nodup (h : Numbered s) {i : Nat} (hfew : (s.usersOf i).length ≤ 2 ^ 64) :
    ((s.usersOf i).map (·.consumer.uid)).Nodup := by
  rw [h.uids, List.nodup_map_iff_inj_on List.nodup_range']
  intro a ha b hb hab
  rw [List.mem_range'_1] at ha hb
  have hmod : a % 2 ^ 64 = b % 2 ^ 64 := by
    have := congrArg UInt64.toNat hab
    simpa using this
  omega

/-- A worker and a correlation id determine the user. -/
theorem user_unique (h : Numbered s) (hfew : s.Unwrapped) {k k' : Nat} {u u' : User}
    (hk : s.users[k]? = some u) (hk' : s.users[k']? = some u') (hw : u.worker = u'.worker)
    (hu : u.consumer.uid = u'.consumer.uid) : k = k' := by
  have hpair := h.uids_nodup (hfew u.worker)
  rw [List.nodup_iff_pairwise_ne, List.pairwise_map, State.usersOf, List.pairwise_filter] at hpair
  obtain ⟨hlt, hget⟩ := List.getElem?_eq_some_iff.1 hk
  obtain ⟨hlt', hget'⟩ := List.getElem?_eq_some_iff.1 hk'
  rw [List.pairwise_iff_getElem] at hpair
  rcases Nat.lt_trichotomy k k' with hkk | hkk | hkk
  · exact absurd (by rw [hget, hget', hu]) (hpair k k' hlt hlt' hkk (by simp [hget])
      (by simp [hget', hw]))
  · exact hkk
  · exact absurd (by rw [hget, hget', hu]) (hpair k' k hlt' hlt hkk (by simp [hget', hw])
      (by simp [hget]))

theorem start (service : Service) : Numbered { service := service } where
  homes := nofun
  last := nofun
  uids _ := rfl

theorem of_step? (h : Numbered s) {outside : Outside} {a : Action}
    (hs : s.step? outside a = some s') : Numbered s' := by
  rcases step?_grows hs with hk | ⟨-, hadds⟩
  · exact h.keeps hk
  · cases a with
    | connect client options keepsEvents => exact h.connect hs
    | join worker identifier => exact h.join hs
    | _ => exact absurd hadds id

end Numbered

/-- The users of each worker are numbered through after any run. -/
theorem Run.numbered {c : Coordinator} {h : History} (run : Run Honest (History.start c) h) :
    Numbered h.state := by
  induction run with
  | nil => exact .start _
  | snoc _ _ hs ih => exact ih.of_step? (History.step?_eq_some.1 hs).1

end LoadTest.Cluster
