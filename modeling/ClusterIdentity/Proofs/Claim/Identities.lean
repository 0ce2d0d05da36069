import ClusterIdentity.Proofs.Identity.Records
import ClusterIdentity.Proofs.Lock.Footprint
import ClusterIdentity.Proofs.Table.Scans

/-!
# Identities kept apart

Sessions work for descriptors. Several of them may work for one machine at the same time, so that
nothing is known about who holds a lock. Still a session touches nothing but the record of its
row key and the two rows that guard it: a record tells in its columns which row key it is under,
and the entries of a guarding row were all made by sessions for that row key.

## Main definitions

* `Keyed`: a row tells the row key that it is under
* `Entered`: a contender was entered into a row by a session for its row key
* `IdentityInv`, `IdentityRely`, `IdentityMay`, `identityConduct`: how sessions behave

## Main statements

* `IdentityInv.proper_ownCall`, `IdentityInv.proper_put`, `IdentityInv.proper_erase`: what a session
  does for its own row key keeps to the conduct
-/

namespace ClusterIdentity.Claiming

open Interleaving Locking RowKey

variable {ι : Type}

section

variable (tokens locks : String) (W : ι → Descriptor → Prop)

/-- Whether a row tells in its columns which row key it is under. -/
def Keyed (key : String) (row : Attributes) : Prop :=
  ∃ d : Descriptor, key = d.rowKey.text ∧
    row.get? Column.application.name = some d.application ∧
    row.get? Column.rack.name = some d.rack ∧
    row.get? Column.slot.name = some (Numeral.write d.slot.toNat)

/-- Whether a contender was entered into a row by a session of its machine for a row key. -/
def Entered (k : RowKey) (key name : String) (history : List (ι × Act)) : Prop :=
  ∃ j d, W j d ∧ d.rowKey = k ∧ d.instanceId = name ∧
    (j, Act.sent (.put locks key (Dict.singleton name name) none) true) ∈ history

/-- What always holds of the two tables. -/
structure IdentityInv (s : Scene ι) : Prop where
  /-- Rows tell where they are, apart from those that guard a row key if all are in one table. -/
  keyed : ∀ key row, s.contents.row? tokens key = some row →
    Keyed key row ∨ tokens = locks ∧ ∃ k : RowKey, k.GuardedBy key
  entered : ∀ k key, k.GuardedBy key → ∀ name value,
    s.contents.attribute? locks key name = some value →
    value = name ∧ Entered locks W k key name s.history

variable [DecidableEq ι]

/-- What a session may take for granted: locks are taken and dropped for it by itself only, and
what was done was done. -/
structure IdentityRely (i : ι) (a b : Scene ι) : Prop where
  holds : ∀ k, b.holds locks k i = a.holds locks k i
  history : a.history ⊆ b.history

/-- What is the case when a session's request is answered: it writes to nothing but the rows of a
row key that it works for, and to the record only if it has taken the lock. -/
def IdentityMay (i : ι) (call : StoreCall) (s : Scene ι) : Prop :=
  ∀ t key, call.WritesTo t key → ∃ d, W i d ∧
    (t = tokens ∧ key = d.rowKey.text ∧ s.holds locks d.rowKey i = true ∨
      t = locks ∧ d.rowKey.GuardedBy key)

def identityConduct : Conduct ι where
  inv := IdentityInv tokens locks W
  rely := IdentityRely locks
  may := IdentityMay tokens locks W
  rely_refl _ _ := ⟨fun _ => rfl, fun _ => id⟩
  rely_trans h₁ h₂ :=
    ⟨fun k => (h₂.holds k).trans (h₁.holds k), fun _ hmem => h₂.history (h₁.history hmem)⟩

end

variable {tokens locks : String} {W : ι → Descriptor → Prop} {i : ι} {a : Scene ι}
  {d : Descriptor} {k : RowKey}

/-! ### What was done -/

theorem Entered.mono {key name : String} {earlier later : List (ι × Act)}
    (h : Entered locks W k key name earlier) (hsub : earlier ⊆ later) :
    Entered locks W k key name later := by
  obtain ⟨j, d, hd, hk, hname, hmem⟩ := h
  exact ⟨j, d, hd, hk, hname, hsub hmem⟩

/-- An assertion about what was done, which stays true as more is done. -/
def Lasting (P : Scene ι → Prop) : Prop := ∀ a b : Scene ι, a.history ⊆ b.history → P a → P b

theorem Lasting.report {P : Scene ι → Prop} (hP : Lasting P) {s : Scene ι} (hs : P s)
    (event : Event) : P (s.report i event) :=
  hP s _ (fun _ => List.mem_cons_of_mem _) hs

theorem Lasting.sent {P : Scene ι → Prop} (hP : Lasting P) {s : Scene ι} (hs : P s)
    (call : StoreCall) (reached : Bool) (contents : Contents) :
    P (s.sent i call reached contents) :=
  hP s _ (fun _ => List.mem_cons_of_mem _) hs

variable [DecidableEq ι]

/-! ### Moves -/

theorem identityRely_sent {j : ι} (hj : j ≠ i) (call : StoreCall) (reached : Bool)
    (contents : Contents) : IdentityRely locks j a (a.sent i call reached contents) := by
  refine ⟨fun k => ?_, fun _ => List.mem_cons_of_mem _⟩
  rw [Scene.holds_sent, if_neg fun h => hj h.1.symm]

/-- Events have nothing to do with rows. -/
theorem IdentityInv.proper_report (ha : IdentityInv tokens locks W a) (event : Event) :
    (identityConduct tokens locks W).Proper i a (a.report i event) := by
  refine ⟨⟨ha.keyed, fun k key hkey name value hvalue => ?_⟩,
    fun j hj => ⟨fun k => ?_, fun _ => List.mem_cons_of_mem _⟩⟩
  · obtain ⟨hname, hentered⟩ := ha.entered k key hkey name value hvalue
    exact ⟨hname, hentered.mono fun _ => List.mem_cons_of_mem _⟩
  · rw [Scene.holds_report, if_neg fun h => hj h.1.symm]

/-- A request is proper that leaves rows of the table of identities as they are or tells in them
where they are, and makes no entry but that of a session. -/
theorem IdentityInv.proper_sent (ha : IdentityInv tokens locks W a) {call : StoreCall}
    {reached : Bool} {contents : Contents}
    (hrows : ∀ key row, contents.row? tokens key = some row →
      a.contents.row? tokens key = some row ∨ Keyed key row ∨
        tokens = locks ∧ ∃ k : RowKey, k.GuardedBy key)
    (hentries : ∀ k key, k.GuardedBy key → ∀ name value,
      contents.attribute? locks key name = some value →
      a.contents.attribute? locks key name = some value ∨ value = name ∧
        Entered locks W k key name ((i, .sent call reached) :: a.history)) :
    (identityConduct tokens locks W).Proper i a (a.sent i call reached contents) := by
  refine ⟨⟨fun key row hrow => ?_, fun k key hkey name value hvalue => ?_⟩,
    fun j hj => identityRely_sent hj call reached contents⟩
  · rcases hrows key row hrow with hold | hkeyed
    · exact ha.keyed key row hold
    · exact hkeyed
  · rcases hentries k key hkey name value hvalue with hold | hentered
    · obtain ⟨hname, hentered⟩ := ha.entered k key hkey name value hold
      exact ⟨hname, hentered.mono fun _ => List.mem_cons_of_mem _⟩
    · exact hentered

/-- So is a request that writes to no row. -/
theorem IdentityInv.proper_read (ha : IdentityInv tokens locks W a) {call : StoreCall}
    (hcall : ∀ t key, ¬ call.WritesTo t key) {reached : Bool} {contents : Contents}
    (hcontents : Delivered call a.contents reached contents) :
    (identityConduct tokens locks W).Proper i a (a.sent i call reached contents) := by
  rcases hcontents.eq_or with rfl | rfl
  · exact ha.proper_sent (fun _ _ => .inl) fun _ _ _ _ _ => .inl
  · refine ha.proper_sent (fun key row hrow => ?_) fun k key _ name value hvalue => ?_
    · rw [Contents.row?_perform (hcall _ _)] at hrow
      exact .inl hrow
    · rw [Contents.attribute?_perform (hcall _ _)] at hvalue
      exact .inl hvalue

/-- What is done for a lock is proper if it makes no entry but that of a session. -/
theorem IdentityInv.proper_forLock (ha : IdentityInv tokens locks W a) {call : StoreCall}
    (hcall : ForLock locks k call) {reached : Bool} {contents : Contents}
    (hcontents : Delivered call a.contents reached contents)
    (hentries : ∀ k key, k.GuardedBy key → ∀ name value,
      contents.attribute? locks key name = some value →
      a.contents.attribute? locks key name = some value ∨ value = name ∧
        Entered locks W k key name ((i, .sent call reached) :: a.history)) :
    (identityConduct tokens locks W).Proper i a (a.sent i call reached contents) := by
  refine ha.proper_sent (fun key row hrow => ?_) hentries
  by_cases hw : call.WritesTo tokens key
  · obtain ⟨htable, hguarded⟩ := hcall tokens key hw
    exact .inr (.inr ⟨htable, k, hguarded⟩)
  · rcases hcontents.eq_or with rfl | rfl
    · exact .inl hrow
    · rw [Contents.row?_perform hw] at hrow
      exact .inl hrow

/-- A session may enter its machine into the rows of its row key, and delete whatever it likes
there. -/
theorem IdentityInv.proper_ownCall (ha : IdentityInv tokens locks W a) (hd : W i d)
    {call : StoreCall} (hcall : OwnCall locks d.rowKey d.instanceId call) {reached : Bool}
    {contents : Contents} (hcontents : Delivered call a.contents reached contents) :
    (identityConduct tokens locks W).Proper i a (a.sent i call reached contents) := by
  refine ha.proper_forLock hcall.forLock hcontents fun k key hkey name value hvalue => ?_
  cases hcontents with
  | lost => exact .inl hvalue
  | served =>
    cases call with
    | put t key' attributes condition =>
      obtain ⟨rfl, hguarded, rfl, rfl⟩ := hcall
      by_cases hsame : key' = key
      · subst hsame
        rw [Contents.attribute?_put, Dict.get?_singleton] at hvalue
        split at hvalue
        · rename_i hname
          subst hname
          obtain rfl : d.instanceId = value := Option.some.inj hvalue
          exact .inr ⟨rfl, i, d, hd, hguarded.unique hkey, rfl, List.mem_cons_self⟩
        · exact .inl hvalue
      · rw [Contents.attribute?_perform (StoreCall.not_writesTo_put hsame _ _)] at hvalue
        exact .inl hvalue
    | delete t key' scope condition => exact .inl (Contents.attribute?_delete hvalue)
    | scan t filter limit => exact .inl hvalue
    | batchGet t keys => exact .inl hvalue

/-- Requests for a record leave the rows alone that guard row keys. -/
theorem IdentityInv.proper_record (ha : IdentityInv tokens locks W a) (hk : Unguarding k.text)
    {call : StoreCall} (hcall : ∀ t key, call.WritesTo t key → key = k.text) {reached : Bool}
    {contents : Contents} (hcontents : Delivered call a.contents reached contents)
    (hkeyed : ∀ row, (a.contents.perform call).2.row? tokens k.text = some row →
      Keyed k.text row) :
    (identityConduct tokens locks W).Proper i a (a.sent i call reached contents) := by
  rcases hcontents.eq_or with rfl | rfl
  · exact ha.proper_sent (fun _ _ => .inl) fun _ _ _ _ _ => .inl
  · refine ha.proper_sent (fun key row hrow => ?_) fun k' key hkey name value hvalue => ?_
    · by_cases hw : call.WritesTo tokens key
      · obtain rfl := hcall tokens key hw
        exact .inr (.inl (hkeyed row hrow))
      · rw [Contents.row?_perform hw] at hrow
        exact .inl hrow
    · have hw : ¬ call.WritesTo locks key := by
        intro hw
        rw [hcall locks key hw] at hkey
        exact hk k' hkey
      rw [Contents.attribute?_perform hw] at hvalue
      exact .inl hvalue

theorem keyed_written (d : Descriptor) (now : UInt64) (old : Option Attributes) :
    Keyed d.rowKey.text (Contents.written old (d.stamp now).toAttributes) := by
  have hget : ∀ column value, (column, value) ∈ (d.stamp now).columns →
      (Contents.written old (d.stamp now).toAttributes).get? column.name = some value := by
    intro column value hmem
    rw [Contents.written, Dict.get?_overlay, Descriptor.get?_toAttributes hmem, Option.some_or]
  exact ⟨d, rfl, hget .application _ (by simp [Descriptor.columns, Descriptor.stamp]),
    hget .rack _ (by simp [Descriptor.columns, Descriptor.stamp]),
    hget .slot _ (by simp [Descriptor.columns, Descriptor.stamp])⟩

theorem IdentityInv.proper_put (ha : IdentityInv tokens locks W a) (d : Descriptor)
    (now : UInt64) {reached : Bool} {contents : Contents}
    (hcontents : Delivered (.put tokens d.rowKey.text (d.stamp now).toAttributes none) a.contents
      reached contents) :
    (identityConduct tokens locks W).Proper i a (a.sent i
      (.put tokens d.rowKey.text (d.stamp now).toAttributes none) reached contents) := by
  have hwrites : ∀ t key, (StoreCall.put tokens d.rowKey.text (d.stamp now).toAttributes
      none).WritesTo t key → key = d.rowKey.text := fun _ _ hw => hw.2.symm
  refine ha.proper_record d.unguarding_rowKey hwrites hcontents fun row hrow => ?_
  rw [Contents.row?_put, Option.some.injEq] at hrow
  rw [← hrow]
  exact keyed_written d now _

theorem IdentityInv.proper_erase (ha : IdentityInv tokens locks W a) (hk : Unguarding k.text)
    {reached : Bool} {contents : Contents}
    (hcontents : Delivered (.delete tokens k.text .row none) a.contents reached contents) :
    (identityConduct tokens locks W).Proper i a
      (a.sent i (.delete tokens k.text .row none) reached contents) := by
  have hwrites : ∀ t key, (StoreCall.delete tokens k.text .row none).WritesTo t key →
      key = k.text := fun _ _ hw => hw.2.symm
  refine ha.proper_record hk hwrites hcontents fun row hrow => ?_
  rw [Contents.row?_deleteRow] at hrow
  cases hrow

end ClusterIdentity.Claiming
