import ClusterIdentity.Claim.Roster
import ClusterIdentity.Proofs.Solo
import ClusterIdentity.Proofs.Table.Scans

/-!
# What the roster answers

The roster scans the table once and decodes the rows that it gets one after another, so that its
answer is settled by what the scan is answered with. If it answers, then with what the rows of the
table hold, whatever may have failed.

## Main definitions

* `recordsOf`, `rowsOf`: the records in some rows, and the rows of an application
* `listed`, `firstKey`: what a list of instances and the key of a record are, going by what the scan
  was answered with
* `Answers`: what is asked of an answer, whatever fails

## Main statements

* `within_decode_eq`: the records that are found in rows
* `result_run_instances`, `result_run_instance?`, `result_run_instancesIn`, `run_key?`: answers to
  queries, whatever the store is
* `ends_instances`, `ends_instance?`, `ends_key?`: the answers to the queries
-/

namespace ClusterIdentity.Roster

open Interleaving Solo

/-- The records in some rows. -/
def recordsOf (rows : List Row) : List Descriptor :=
  rows.filterMap fun row => (Descriptor.ofRow row).toOption

theorem mem_recordsOf {rows : List Row} {record : Descriptor} :
    record ∈ recordsOf rows ↔ ∃ row ∈ rows, Descriptor.ofRow row = .ok record := by
  rw [recordsOf, List.mem_filterMap]
  refine exists_congr fun row => and_congr_right fun _ => ?_
  cases Descriptor.ofRow row with
  | ok record' => simp [Except.toOption]
  | error e => simp [Except.toOption]

theorem recordsOf_cons_of_ok {row : Row} {record : Descriptor}
    (h : Descriptor.ofRow row = .ok record) (rest : List Row) :
    recordsOf (row :: rest) = record :: recordsOf rest := by
  simp [recordsOf, h, Except.toOption]

theorem recordsOf_cons_of_error {row : Row} {e : MalformedRecord}
    (h : Descriptor.ofRow row = .error e) (rest : List Row) :
    recordsOf (row :: rest) = recordsOf rest := by
  simp [recordsOf, h, Except.toOption]

/-- Rows that hold no record may be left out. -/
theorem recordsOf_filter (rows : List Row) :
    recordsOf (rows.filter fun row => (Descriptor.ofRow row).toOption.isSome) = recordsOf rows := by
  rw [recordsOf, recordsOf, List.filterMap_filter]
  refine congrArg (rows.filterMap ·) (funext fun row => ?_)
  cases (Descriptor.ofRow row).toOption <;> rfl

/-- If every row holds a record, each of them is decoded to one of the records. -/
theorem map_ofRow_eq {rows : List Row}
    (h : ∀ row ∈ rows, ∃ record, Descriptor.ofRow row = .ok record) :
    rows.map Descriptor.ofRow = (recordsOf rows).map .ok := by
  induction rows with
  | nil => rfl
  | cons row rest ih =>
    obtain ⟨record, hrecord⟩ := h row (List.mem_cons_self ..)
    have hrest := ih fun row' hmem => h row' (List.mem_cons_of_mem _ hmem)
    rw [recordsOf_cons_of_ok hrecord, List.map_cons, List.map_cons, hrecord, hrest]

/-- Decoding sends no requests, warns of rows that hold no record, and finds the others. -/
theorem within_decode_eq (table : String) (rows : List Row) :
    (decode table rows).Within (fun _ => False) (fun event => ∃ e, event = .rowSkipped table e)
      (· = recordsOf rows) := by
  induction rows with
  | nil => rfl
  | cons row rest ih =>
    rw [decode]
    cases hrow : Descriptor.ofRow row with
    | ok record =>
      refine ih.bind ?_
      rintro _ rfl
      exact (recordsOf_cons_of_ok hrow rest).symm
    | error e =>
      refine Procedure.Within.bind (Procedure.within_report ⟨e, rfl⟩) fun _ _ => ?_
      rw [recordsOf_cons_of_error hrow]
      exact ih

/-- The rows of a table that name an application. -/
def rowsOf (c : Contents) (table application : String) : List Row :=
  (c.rows table).filter fun row => row.get? Column.application.name == some application

theorem filter_ofApplication (c : Contents) (table application : String) :
    (c.rows table).filter (ofApplication application).selects = rowsOf c table application := by
  apply List.filter_congr
  intro row _
  simp [ofApplication, Filter.and, Filter.all, Filter.selects, Filter.accepts, Row.get?]

/-! ### Queries of any store -/

/-- The records that were scanned, each one once, unless the scan failed. -/
def listed : Except StoreError Scanned → Except StoreError (List Descriptor)
  | .error e => .error e
  | .ok scanned =>
    match scanned.failure with
    | some e => .error e
    | none => .ok (recordsOf scanned.rows).eraseDups

/-- The key of the first row that was scanned, if there is one. -/
def firstKey : Except StoreError Scanned → Except StoreError (Option String)
  | .error e => .error e
  | .ok scanned =>
    match scanned.rows, scanned.failure with
    | row :: _, _ => .ok (some row.key)
    | [], some e => .error e
    | [], none => .ok none

section Handlers

variable {σ : Type} (handler : (effect : Effect) → σ → effect.Answer × σ) (s : σ)
  (table application : String)

/-- What a store answers to the scan for all records of an application. -/
def scanAnswer : Except StoreError Scanned :=
  (handler (.call (.scan table (ofApplication application) none)) s).1

theorem result_run_instances :
    ((instances table application).run handler s).1 =
      listed (scanAnswer handler s table application) := by
  have hrun : (instances table application).run handler s =
      Program.run handler _ (handler (.call (.scan table (ofApplication application) none)) s).2 :=
    rfl
  rw [hrun, scanAnswer]
  generalize handler (.call (.scan table (ofApplication application) none)) s = answered
  obtain ⟨answer, s'⟩ := answered
  cases answer with
  | error e => rfl
  | ok scanned =>
    obtain ⟨rows, failure⟩ : Scanned := scanned
    have hdecoded : ((decode table rows).run handler s').1 = recordsOf rows :=
      (within_decode_eq table rows).result_run handler s'
    show (((decode table rows).bind _).run handler s').1 = _
    rw [Program.run_bind, hdecoded]
    cases failure <;> rfl

theorem result_run_instance? (rack : String) (slot : UInt32) :
    ((instance? table application rack slot).run handler s).1 =
      (listed (scanAnswer handler s table application)).map
        (·.find? fun d => d.rack == rack && d.slot == slot) := by
  rw [instance?, Program.bind_eq_bind, Program.run_bind, result_run_instances]
  cases listed (scanAnswer handler s table application) <;> rfl

theorem result_run_instancesIn (datacenter : String) :
    ((instancesIn table application datacenter).run handler s).1 =
      (listed (scanAnswer handler s table application)).map
        (·.filter fun d => d.datacenter == datacenter) := by
  rw [instancesIn, Program.bind_eq_bind, Program.run_bind, result_run_instances]
  cases listed (scanAnswer handler s table application) <;> rfl

/-- Looking up a key sends one request and does nothing else. -/
theorem run_key? (slot : UInt32) (datacenter rack : String) :
    (key? table application slot datacenter rack).run handler s =
      (firstKey (handler (.call
        (.scan table (ofInstance application slot datacenter rack) (some 1))) s).1,
        (handler (.call
          (.scan table (ofInstance application slot datacenter rack) (some 1))) s).2) := by
  have hrun : (key? table application slot datacenter rack).run handler s = Program.run handler _
      (handler (.call (.scan table (ofInstance application slot datacenter rack) (some 1))) s).2 :=
    rfl
  rw [hrun]
  generalize handler (.call (.scan table (ofInstance application slot datacenter rack) (some 1))) s
    = answered
  obtain ⟨answer, s'⟩ := answered
  cases answer with
  | error e => rfl
  | ok scanned =>
    obtain ⟨rows, failure⟩ : Scanned := scanned
    cases rows <;> cases failure <;> rfl

end Handlers

/-! ### Queries with nobody else about -/

/-- Whether an answer has a property if it is one, and is one if nothing fails. -/
structure Answers {α : Type} (faults : Faults) (answer : Except StoreError α) (P : α → Prop) :
    Prop where
  right : ∀ a, answer = .ok a → P a
  given : faults = Faults.none → ∃ a, answer = .ok a

namespace Answers

variable {α β : Type} {faults : Faults} {P : α → Prop}

theorem ok {a : α} (h : P a) : Answers faults (.ok a) P :=
  ⟨fun _ heq => Except.ok.inj heq ▸ h, fun _ => ⟨a, rfl⟩⟩

theorem error {e : StoreError} (h : faults ≠ Faults.none) : Answers faults (.error e) P :=
  ⟨nofun, fun hnone => (h hnone).elim⟩

/-- A failed request may have its failure passed on. -/
theorem passOn {e : StoreError} (h : Answers faults (.error e) P) {Q : β → Prop} :
    Answers faults (.error e) Q := by
  apply error
  intro hnone
  obtain ⟨a, ha⟩ := h.given hnone
  cases ha

theorem mono {answer : Except StoreError α} (h : Answers faults answer P) {Q : α → Prop}
    (himp : ∀ a, P a → Q a) : Answers faults answer Q :=
  ⟨fun a ha => himp a (h.right a ha), h.given⟩

end Answers

section

variable {faults : Faults} {now : UInt64} {c : Contents}

theorem ends_scan (table : String) (filter : Filter) (limit : Option Nat) :
    Ends faults now (fun s => s.contents = c) (Procedure.call (.scan table filter limit))
      fun answer _ => Answers faults answer fun scanned : Scanned =>
        Scan ((c.rows table).filter filter.selects) limit scanned ∧
          (faults = Faults.none → scanned.failure = none) := by
  rintro s rfl
  refine ⟨fun scanned h => ⟨scanned_of_serve h, ?_⟩, ?_⟩
  · rintro rfl
    cases h
    rfl
  · rintro rfl
    exact ⟨_, rfl⟩

/-- A list of instances has the records of the rows that were scanned, if the scan had all rows of
the application. -/
theorem answers_listed {table application : String} {answer : Except StoreError Scanned}
    (h : Answers faults answer fun scanned : Scanned =>
      Scan ((c.rows table).filter (ofApplication application).selects) none scanned ∧
        (faults = Faults.none → scanned.failure = none)) :
    Answers faults (listed answer)
      (· = (recordsOf (rowsOf c table application)).eraseDups) := by
  cases answer with
  | error e => exact h.passOn
  | ok scanned =>
    obtain ⟨rows, failure⟩ : Scanned := scanned
    obtain ⟨hscan, hcomplete⟩ := h.right _ rfl
    cases failure with
    | some error => exact .error fun hnone => nomatch hcomplete hnone
    | none =>
      have hrows : rows = rowsOf c table application :=
        (hscan.complete rfl).trans (filter_ofApplication c table application)
      exact .ok (by rw [hrows])

/-- A key that is found is that of a row that was scanned. If none is found, none was. -/
theorem answers_firstKey {rows : List Row} {answer : Except StoreError Scanned}
    (h : Answers faults answer fun scanned : Scanned =>
      Scan rows (some 1) scanned ∧ (faults = Faults.none → scanned.failure = none)) :
    Answers faults (firstKey answer) fun found =>
      (found = none → rows = []) ∧ ∀ key, found = some key → ∃ row ∈ rows, row.key = key := by
  cases answer with
  | error e => exact h.passOn
  | ok scanned =>
    obtain ⟨taken, failure⟩ : Scanned := scanned
    obtain ⟨hscan, hcomplete⟩ := h.right _ rfl
    cases taken with
    | cons row rest =>
      refine .ok ⟨nofun, ?_⟩
      rintro key ⟨rfl⟩
      exact ⟨row, hscan.sublist.subset (List.mem_cons_self ..), rfl⟩
    | nil =>
      cases failure with
      | some error => exact .error fun hnone => nomatch hcomplete hnone
      | none =>
        refine .ok ⟨fun _ => ?_, nofun⟩
        have hnil : rows.take 1 = [] := (hscan.complete rfl).symm
        simpa using hnil

/-- A list of instances has the records of the application's rows, each one once. -/
theorem ends_instances (table application : String) :
    Ends faults now (fun s => s.contents = c) (instances table application) fun answer _ =>
      Answers faults answer (· = (recordsOf (rowsOf c table application)).eraseDups) := by
  intro s hs
  rw [result_run_instances]
  exact answers_listed (@ends_scan faults now c table (ofApplication application) none s hs)

/-- The record of a slot is one that is found among those of the application. -/
theorem ends_instance? (table application rack : String) (slot : UInt32) :
    Ends faults now (fun s => s.contents = c) (instance? table application rack slot)
      fun answer _ => Answers faults answer
        (· = (recordsOf (rowsOf c table application)).eraseDups.find?
          fun d => d.rack == rack && d.slot == slot) := by
  refine (ends_instances table application).bind fun answer => ?_
  refine Ends.assume (fun _ h => h) fun hanswer => ?_
  cases answer with
  | error e => exact Ends.done fun _ _ => hanswer.passOn
  | ok records =>
    refine Ends.done fun _ _ => .ok ?_
    rw [hanswer.right records rfl]

/-- A key that is found is that of a row which the query selects. If none is found, it selects no
row. -/
theorem ends_key? (table application datacenter rack : String) (slot : UInt32) :
    Ends faults now (fun s => s.contents = c) (key? table application slot datacenter rack)
      fun answer _ => Answers faults answer fun found =>
        (found = none → (c.rows table).filter
          (ofInstance application slot datacenter rack).selects = []) ∧
        ∀ key, found = some key → ∃ row ∈ (c.rows table).filter
          (ofInstance application slot datacenter rack).selects, row.key = key := by
  intro s hs
  rw [run_key?]
  exact answers_firstKey
    (@ends_scan faults now c table (ofInstance application slot datacenter rack) (some 1) s hs)

end

end ClusterIdentity.Roster
