import ClusterIdentity.Proofs.Lock.Footprint

/-!
# The choosing row

A contender that enters the choosing row of a row key stays in it until it removes its entry. If
it was the only one in the row at some moment since it entered, then nobody else can have been so:
at the later of two such moments the row would have had both entries. This is all that makes the
contention check safe, as long as no contender removes entries other than its own.

## Main definitions

* `Scene.listed`: a contender is in the choosing row
* `Scene.Alone`: it was the only one in it at some moment since it entered
* `Scene.passed`: it went on to claim the lock and has not left the choosing row since
* `ChoosingInv`, `ChoosingRely`, `choosingConduct`: how contenders behave that tear nothing down

## Main statements

* `Scene.Alone.unique`: of all contenders in the row, one at most was alone in it
* `ChoosingInv.proper_enter`, `ChoosingInv.proper_pass`, `ChoosingInv.proper_claim`,
  `ChoosingInv.proper_leave`: moves that keep to the conduct
-/

namespace ClusterIdentity.Interleaving

/-- Whether an act is to write to a row. -/
def Act.enters (table key : String) : Act → Bool
  | .sent (.put t k _ _) true => decide (t = table ∧ k = key)
  | _ => false

/-- Whether an act is to remove something from a row. -/
def Act.leaves (table key : String) : Act → Bool
  | .sent (.delete t k _ _) true => decide (t = table ∧ k = key)
  | _ => false

/-- Whether an act is to go on from choosing to claiming the lock of a row key. -/
def Act.passes (k : RowKey) : Act → Bool
  | .reported (.lockMoved rowKey _ _ .locking) => decide (rowKey = k)
  | _ => false

theorem Act.enters_of_not_writesTo {table key : String} {call : StoreCall}
    (h : ¬ call.WritesTo table key) (reached : Bool) :
    (Act.sent call reached).enters table key = false := by
  cases call with
  | put t k attributes condition =>
    cases reached with
    | true => exact decide_eq_false h
    | false => rfl
  | _ => rfl

theorem Act.leaves_of_not_writesTo {table key : String} {call : StoreCall}
    (h : ¬ call.WritesTo table key) (reached : Bool) :
    (Act.sent call reached).leaves table key = false := by
  cases call with
  | delete t k scope condition =>
    cases reached with
    | true => exact decide_eq_false h
    | false => rfl
  | _ => rfl

section Since

variable {ι : Type} [DecidableEq ι]

/-- Whether a participant has done an act of one kind and none of another kind since. -/
def sinceAfter (begins ends : Act → Bool) (i : ι) : List (ι × Act) → Bool
  | [] => false
  | (j, act) :: earlier =>
    if j = i ∧ begins act then true
    else if j = i ∧ ends act then false
    else sinceAfter begins ends i earlier

variable {begins ends : Act → Bool} {i j : ι} {act : Act} {earlier : List (ι × Act)}

theorem sinceAfter_of_ne (h : j ≠ i) :
    sinceAfter begins ends j ((i, act) :: earlier) = sinceAfter begins ends j earlier := by
  rw [sinceAfter, if_neg fun hi => h hi.1.symm, if_neg fun hi => h hi.1.symm]

theorem sinceAfter_of_neither (hbegins : begins act = false) (hends : ends act = false) :
    sinceAfter begins ends j ((i, act) :: earlier) = sinceAfter begins ends j earlier := by
  simp [sinceAfter, hbegins, hends]

theorem sinceAfter_of_begins (h : begins act = true) :
    sinceAfter begins ends i ((i, act) :: earlier) = true := by
  simp [sinceAfter, h]

theorem sinceAfter_of_ends (hbegins : begins act = false) (hends : ends act = true) :
    sinceAfter begins ends i ((i, act) :: earlier) = false := by
  simp [sinceAfter, hbegins, hends]

end Since

section Ghosts

variable (table : String) (k : RowKey) (i : String)

def listedAfter : List (String × Act) → Bool :=
  sinceAfter (Act.enters table k.choosing) (Act.leaves table k.choosing) i

def passedAfter : List (String × Act) → Bool :=
  sinceAfter (Act.passes k) (Act.leaves table k.choosing) i

/-- Whether a contender is in the choosing row and was the only one in it at some moment since
it entered. -/
def AloneAfter : List (String × Act) → Prop
  | [] => False
  | entry :: earlier => listedAfter table k i (entry :: earlier) = true ∧
    (AloneAfter earlier ∨ ∀ j, j ≠ i → listedAfter table k j (entry :: earlier) = false)

end Ghosts

section Alone

variable {table : String} {k : RowKey} {i j : String} {history : List (String × Act)}

theorem AloneAfter.listed (h : AloneAfter table k i history) :
    listedAfter table k i history = true := by
  cases history with
  | nil => exact h.elim
  | cons entry earlier => exact h.1

theorem AloneAfter.cons (h : AloneAfter table k i history) {entry : String × Act}
    (hlisted : listedAfter table k i (entry :: history) = true) :
    AloneAfter table k i (entry :: history) :=
  ⟨hlisted, .inl h⟩

theorem AloneAfter.of_sole (hi : listedAfter table k i history = true)
    (hothers : ∀ j, j ≠ i → listedAfter table k j history = false) :
    AloneAfter table k i history := by
  cases history with
  | nil => cases hi
  | cons entry earlier => exact ⟨hi, .inr hothers⟩

/-- Of all contenders in the row, one at most was alone in it since it entered. -/
theorem AloneAfter.unique (hi : AloneAfter table k i history) (hj : AloneAfter table k j history) :
    i = j := by
  induction history with
  | nil => exact hi.elim
  | cons entry earlier ih =>
    obtain ⟨hlisted_i, hi⟩ := hi
    obtain ⟨hlisted_j, hj⟩ := hj
    by_contra hne
    -- whoever is alone now is not alone together with the other
    rcases hi with hi | hi
    · rcases hj with hj | hj
      · exact hne (ih hi hj)
      · rw [hj i hne] at hlisted_i
        cases hlisted_i
    · rw [hi j (Ne.symm hne)] at hlisted_j
      cases hlisted_j

end Alone

namespace Scene

variable (s : Scene String) (table : String) (k : RowKey) (i : String)

/-- Whether a contender is in the choosing row, by the record of what was done. -/
def listed : Bool := listedAfter table k i s.history

/-- Whether a contender went on to claim the lock and has not left the choosing row since. -/
def passed : Bool := passedAfter table k i s.history

/-- Whether a contender is in the choosing row and was alone in it since it entered. -/
def Alone : Prop := AloneAfter table k i s.history

end Scene

end ClusterIdentity.Interleaving

namespace ClusterIdentity.Locking

open Interleaving

/-- What always holds of the rows of a row key if contenders tear nothing down. -/
structure ChoosingInv (table : String) (k : RowKey) (s : Scene String) : Prop where
  /-- The choosing row names those who are in it, with the name as value. -/
  row : ∀ i, s.contents.attribute? table k.choosing i =
    if s.listed table k i then some i else none
  alone : ∀ i, s.passed table k i = true → s.Alone table k i
  /-- The lock row names nobody else while a contender claims the lock. -/
  unclaimed : ∀ i j, s.passed table k i = true → j ≠ i →
    s.contents.attribute? table k.lock j = none

theorem ChoosingInv.initial {table : String} {k : RowKey} {contents : Contents}
    (habsent : ∀ key, k.GuardedBy key → contents.row? table key = none) :
    ChoosingInv table k ⟨contents, []⟩ :=
  ⟨fun _ => Contents.attribute?_eq_none_of_row? (habsent _ k.guardedBy_choosing), nofun, nofun⟩

/-- What a contender may take for granted: only itself makes its entries, and nobody makes up for
its having been alone. -/
structure ChoosingRely (table : String) (k : RowKey) (i : String) (a b : Scene String) : Prop where
  listed : b.listed table k i = a.listed table k i
  passed : b.passed table k i = a.passed table k i
  alone : a.Alone table k i → b.Alone table k i
  entry : b.contents.attribute? table k.lock i = a.contents.attribute? table k.lock i

/-- How contenders for the lock of a row key behave that tear nothing down. -/
def choosingConduct (table : String) (k : RowKey) : Conduct String where
  inv := ChoosingInv table k
  rely := ChoosingRely table k
  may _ _ _ := True
  rely_refl _ _ := ⟨rfl, rfl, id, rfl⟩
  rely_trans h₁ h₂ := ⟨h₂.listed.trans h₁.listed, h₂.passed.trans h₁.passed,
    h₂.alone ∘ h₁.alone, h₂.entry.trans h₁.entry⟩

section Moves

variable {table : String} {k : RowKey} {i : String} {a : Scene String} {act : Act}
  {contents : Contents}

/-- A contender behaves that changes its own entries only, provided that it has been alone in the
choosing row if it claims the lock, and makes no entry in the lock row while another does so. -/
theorem ChoosingInv.proper (ha : ChoosingInv table k a)
    (hothers : ∀ j, j ≠ i →
      contents.attribute? table k.choosing j = a.contents.attribute? table k.choosing j)
    (hself : contents.attribute? table k.choosing i =
      if listedAfter table k i ((i, act) :: a.history) then some i else none)
    (hlock : ∀ j, j ≠ i →
      contents.attribute? table k.lock j = a.contents.attribute? table k.lock j)
    (hentry : ∀ j, j ≠ i → a.passed table k j = true →
      contents.attribute? table k.lock i = none)
    (hpassed : passedAfter table k i ((i, act) :: a.history) = true →
      AloneAfter table k i ((i, act) :: a.history) ∧
        ∀ j, j ≠ i → a.contents.attribute? table k.lock j = none) :
    (choosingConduct table k).Proper i a ⟨contents, (i, act) :: a.history⟩ := by
  have hlisted_of_ne : ∀ j, j ≠ i →
      listedAfter table k j ((i, act) :: a.history) = a.listed table k j :=
    fun j hj => sinceAfter_of_ne hj
  have hpassed_of_ne : ∀ j, j ≠ i →
      passedAfter table k j ((i, act) :: a.history) = a.passed table k j :=
    fun j hj => sinceAfter_of_ne hj
  have halone_of_ne : ∀ j, j ≠ i → a.Alone table k j →
      AloneAfter table k j ((i, act) :: a.history) := fun j hj halone =>
    halone.cons ((hlisted_of_ne j hj).trans halone.listed)
  refine ⟨⟨fun j => ?_, fun j hj => ?_, fun j l hj hl => ?_⟩,
    fun j hj => ⟨hlisted_of_ne j hj, hpassed_of_ne j hj, halone_of_ne j hj, hlock j hj⟩⟩
  · by_cases hji : j = i
    · subst hji
      exact hself
    · rw [hothers j hji, ha.row j, ← hlisted_of_ne j hji]
      rfl
  · by_cases hji : j = i
    · subst hji
      exact (hpassed hj).1
    · exact halone_of_ne j hji (ha.alone j ((hpassed_of_ne j hji).symm.trans hj))
  · by_cases hji : j = i
    · subst hji
      exact (hlock l hl).trans ((hpassed hj).2 l hl)
    · have hbefore : a.passed table k j = true := (hpassed_of_ne j hji).symm.trans hj
      by_cases hli : l = i
      · subst hli
        exact hentry j hji hbefore
      · exact (hlock l hli).trans (ha.unclaimed j l hbefore hl)

/-- An act that has nothing to do with the choosing row is proper if the entries in the lock row
are. -/
theorem ChoosingInv.proper_of_neither (ha : ChoosingInv table k a)
    (henters : act.enters table k.choosing = false) (hleaves : act.leaves table k.choosing = false)
    (hpasses : act.passes k = false)
    (hchoosing : ∀ j, contents.attribute? table k.choosing j =
      a.contents.attribute? table k.choosing j)
    (hlock : ∀ j, j ≠ i →
      contents.attribute? table k.lock j = a.contents.attribute? table k.lock j)
    (hentry : ∀ j, j ≠ i → a.passed table k j = true →
      contents.attribute? table k.lock i = none) :
    (choosingConduct table k).Proper i a ⟨contents, (i, act) :: a.history⟩ := by
  have hlisted : listedAfter table k i ((i, act) :: a.history) = a.listed table k i :=
    sinceAfter_of_neither henters hleaves
  have hpassed : passedAfter table k i ((i, act) :: a.history) = a.passed table k i :=
    sinceAfter_of_neither hpasses hleaves
  refine ha.proper (fun j _ => hchoosing j) ?_ hlock hentry fun hi => ?_
  · rw [hchoosing i, ha.row i, hlisted]
  · rw [hpassed] at hi
    have halone := ha.alone i hi
    exact ⟨halone.cons (hlisted.trans halone.listed), fun j hj => ha.unclaimed i j hi hj⟩

/-- An event is proper unless it is that the contender goes on to claim the lock. -/
theorem ChoosingInv.proper_report (ha : ChoosingInv table k a) {event : Event}
    (h : (Act.reported event).passes k = false) :
    (choosingConduct table k).Proper i a (a.report i event) :=
  ha.proper_of_neither rfl rfl h (fun _ => rfl) (fun _ _ => rfl) fun j hj hpassed =>
    ha.unclaimed j i hpassed hj.symm

/-- A contender that has been alone in the choosing row and finds nobody else in the lock row may
go on to claim the lock. -/
theorem ChoosingInv.proper_pass (ha : ChoosingInv table k a) (halone : a.Alone table k i)
    (hfree : ∀ j, j ≠ i → a.contents.attribute? table k.lock j = none) (event : Event) :
    (choosingConduct table k).Proper i a (a.report i event) := by
  have hlisted : listedAfter table k i ((i, .reported event) :: a.history) = a.listed table k i :=
    sinceAfter_of_neither rfl rfl
  refine ha.proper (fun _ _ => rfl) ?_ (fun _ _ => rfl)
    (fun j hj hpassed => ha.unclaimed j i hpassed hj.symm) fun _ => ⟨?_, hfree⟩
  · rw [ha.row i, hlisted]
  · exact halone.cons (hlisted.trans halone.listed)

variable {call : StoreCall} {reached : Bool}

/-- A request that does not write to the choosing row is proper if the entries in the lock row
are. -/
theorem ChoosingInv.proper_of_not_writesTo (ha : ChoosingInv table k a)
    (hchoosing : ¬ call.WritesTo table k.choosing)
    (hcontents : Delivered call a.contents reached contents)
    (hlock : ∀ j, j ≠ i →
      contents.attribute? table k.lock j = a.contents.attribute? table k.lock j)
    (hentry : ∀ j, j ≠ i → a.passed table k j = true →
      contents.attribute? table k.lock i = none) :
    (choosingConduct table k).Proper i a (a.sent i call reached contents) := by
  refine ha.proper_of_neither (Act.enters_of_not_writesTo hchoosing reached)
    (Act.leaves_of_not_writesTo hchoosing reached) rfl (fun j => ?_) hlock hentry
  rcases hcontents.eq_or with rfl | rfl
  · rfl
  · exact Contents.attribute?_perform hchoosing j

/-- Requests for other rows have nothing to do with the lock. -/
theorem ChoosingInv.proper_sent (ha : ChoosingInv table k a)
    (hcall : ∀ key, k.GuardedBy key → ¬ call.WritesTo table key)
    (hcontents : Delivered call a.contents reached contents) :
    (choosingConduct table k).Proper i a (a.sent i call reached contents) := by
  have hlock : ∀ j, contents.attribute? table k.lock j =
      a.contents.attribute? table k.lock j := by
    intro j
    rcases hcontents.eq_or with rfl | rfl
    · rfl
    · exact Contents.attribute?_perform (hcall _ k.guardedBy_lock) j
  exact ha.proper_of_not_writesTo (hcall _ k.guardedBy_choosing) hcontents (fun j _ => hlock j)
    fun j hj hpassed => (hlock i).trans (ha.unclaimed j i hpassed hj.symm)

/-- A contender may enter the choosing row at any time. -/
theorem ChoosingInv.proper_enter (ha : ChoosingInv table k a)
    (hcontents : Delivered (.put table k.choosing (Dict.singleton i i) none) a.contents reached
      contents) :
    (choosingConduct table k).Proper i a
      (a.sent i (.put table k.choosing (Dict.singleton i i) none) reached contents) := by
  have hlock : ∀ j, contents.attribute? table k.lock j =
      a.contents.attribute? table k.lock j := by
    intro j
    rcases hcontents.eq_or with rfl | rfl
    · rfl
    · exact Contents.attribute?_perform
        (StoreCall.not_writesTo_put (RowKey.lock_ne_choosing k k).symm _ _) j
  have hentry : ∀ j, j ≠ i → a.passed table k j = true →
      contents.attribute? table k.lock i = none := fun j hj hpassed =>
    (hlock i).trans (ha.unclaimed j i hpassed hj.symm)
  cases hcontents with
  | lost => exact ha.proper_of_neither rfl rfl rfl (fun _ => rfl) (fun j _ => hlock j) hentry
  | served =>
    have hlisted : listedAfter table k i
        ((i, .sent (.put table k.choosing (Dict.singleton i i) none) true) :: a.history) =
        true := sinceAfter_of_begins (decide_eq_true ⟨rfl, rfl⟩)
    have hpassed : passedAfter table k i
        ((i, .sent (.put table k.choosing (Dict.singleton i i) none) true) :: a.history) =
        a.passed table k i := sinceAfter_of_neither rfl rfl
    refine ha.proper (fun j hj => ?_) ?_ (fun j _ => hlock j) hentry fun hi => ?_
    · simp [Contents.attribute?_put, Ne.symm hj]
    · rw [hlisted]
      simp [Contents.attribute?_put]
    · rw [hpassed] at hi
      exact ⟨(ha.alone i hi).cons hlisted, fun j hj => ha.unclaimed i j hi hj⟩

/-- A contender that went on to claim the lock may enter the lock row, since nobody else did. -/
theorem ChoosingInv.proper_claim (ha : ChoosingInv table k a) (hi : a.passed table k i = true)
    (hcontents : Delivered (.put table k.lock (Dict.singleton i i) none) a.contents reached
      contents) :
    (choosingConduct table k).Proper i a
      (a.sent i (.put table k.lock (Dict.singleton i i) none) reached contents) := by
  refine ha.proper_of_not_writesTo
    (StoreCall.not_writesTo_put (RowKey.lock_ne_choosing k k) _ _) hcontents (fun j hj => ?_)
    fun j hj hpassed => (hj ((ha.alone j hpassed).unique (ha.alone i hi))).elim
  rcases hcontents.eq_or with rfl | rfl
  · rfl
  · simp [Contents.attribute?_put, Ne.symm hj]

/-- A contender may leave either row at any time. -/
theorem ChoosingInv.proper_leave (ha : ChoosingInv table k a) {key : String}
    (hkey : k.GuardedBy key)
    (hcontents : Delivered (Contents.deleteAttribute table key i i) a.contents reached contents) :
    (choosingConduct table k).Proper i a
      (a.sent i (Contents.deleteAttribute table key i i) reached contents) := by
  have hothers : ∀ key' j, j ≠ i → contents.attribute? table key' j =
      a.contents.attribute? table key' j := by
    intro key' j hj
    rcases hcontents.eq_or with rfl | rfl
    · rfl
    · exact Contents.attribute?_deleteAttribute_of_ne hj.symm ..
  have hentry : ∀ j, j ≠ i → a.passed table k j = true →
      contents.attribute? table k.lock i = none := by
    intro j hj hpassed
    have hnone := ha.unclaimed j i hpassed hj.symm
    rcases hcontents.eq_or with rfl | rfl
    · exact hnone
    · exact Contents.attribute?_deleteAttribute_of_none hnone ..
  rcases hkey with rfl | rfl
  · exact ha.proper_of_not_writesTo
      (StoreCall.not_writesTo_delete (RowKey.lock_ne_choosing k k) _ _) hcontents
      (fun j hj => hothers _ j hj) hentry
  · cases hcontents with
    | lost => exact ha.proper_of_neither rfl rfl rfl (fun _ => rfl) (fun _ _ => rfl) hentry
    | served =>
      have hleaves : (Act.sent (Contents.deleteAttribute table k.choosing i i) true).leaves table
          k.choosing = true := decide_eq_true ⟨rfl, rfl⟩
      refine ha.proper (fun j hj => hothers _ j hj) ?_ (fun j hj => hothers _ j hj) hentry
        fun hi => ?_
      · -- the entry has the name as value, so that the condition of the request is met
        rw [listedAfter, sinceAfter_of_ends rfl hleaves, Contents.attribute?_deleteAttribute,
          ha.row i]
        cases a.listed table k i <;> simp
      · rw [passedAfter, sinceAfter_of_ends rfl hleaves] at hi
        cases hi

end Moves

end ClusterIdentity.Locking
