import ClusterIdentity.Proofs.Claim.Recording
import ClusterIdentity.Proofs.Claim.Roster
import ClusterIdentity.Proofs.Table.Scans

/-!
# Queries under way

What a node knows about the table of identities after a query, although other nodes go on working
on it.

## Main definitions

* `Consistent`: descriptors of one machine for one row key name the same place
* `NodeTriple`: a procedure of a node keeps to the conduct, whatever fails

## Main statements

* `triple_key?_of_scan`: what the query for a key tells, whatever the conduct is
* `triple_instance?`: if a machine finds no record, there is none of its own under the row key, and
  there will be none
* `triple_key?`: a machine that holds the lock finds the record under the row key exactly if there
  is one
-/

namespace ClusterIdentity.Claiming

open Interleaving Locking RowKey

/-- Descriptors of one machine for one row key agree on the place. -/
def Consistent (D : Descriptor → Prop) : Prop :=
  ∀ d d', D d → D d' → d.instanceId = d'.instanceId → d.rowKey = d'.rowKey →
    d.application = d'.application ∧ d.slot = d'.slot ∧ d.datacenter = d'.datacenter ∧
      d.rack = d'.rack

/-- Whatever the conduct is, the key of an instance that is found is that of a row that the query
selects, and none is found only if the query selects no row. -/
theorem triple_key?_of_scan {ι : Type} {C : Conduct ι} {reliable : Prop} {i : ι}
    {keep pre : Scene ι → Prop} {table application datacenter rack : String} {slot : UInt32}
    (hscan : C.Triple reliable i keep pre
      (Procedure.call (.scan table (Roster.ofInstance application slot datacenter rack) (some 1)))
      fun answer s => pre s ∧ ∀ scanned : Scanned, answer = .ok scanned →
        Scan ((s.contents.rows table).filter
          (Roster.ofInstance application slot datacenter rack).selects) (some 1) scanned) :
    C.Triple reliable i keep pre (Roster.key? table application slot datacenter rack)
      fun answer s => pre s ∧
        (answer = .ok none → (s.contents.rows table).filter
          (Roster.ofInstance application slot datacenter rack).selects = []) ∧
        ∀ key, answer = .ok (some key) → ∃ row ∈ (s.contents.rows table).filter
          (Roster.ofInstance application slot datacenter rack).selects, row.key = key := by
  refine hscan.bind fun answer => ?_
  cases answer with
  | error e => exact Conduct.Triple.done fun _ _ h => ⟨h.1, nofun, nofun⟩
  | ok scanned =>
    obtain ⟨rows, failure⟩ : Scanned := scanned
    cases rows with
    | cons row rest =>
      refine Conduct.Triple.done fun s _ h => ⟨h.1, nofun, fun key hkey => ⟨row, ?_, ?_⟩⟩
      · exact (h.2 _ rfl).sublist.mem List.mem_cons_self
      · cases hkey
        rfl
    | nil =>
      cases failure with
      | some e => exact Conduct.Triple.done fun _ _ h => ⟨h.1, nofun, nofun⟩
      | none =>
        refine Conduct.Triple.done fun s _ h => ⟨h.1, fun _ => ?_, nofun⟩
        have hread : [] = ((s.contents.rows table).filter
            (Roster.ofInstance application slot datacenter rack).selects).take 1 :=
          (h.2 _ rfl).complete rfl
        rcases List.take_eq_nil_iff.mp hread.symm with hzero | hnil
        · cases hzero
        · exact hnil

/-- A procedure of a node keeps to the conduct, whatever fails and wherever it is abandoned. -/
abbrev NodeTriple {α : Type} (tokens locks : String) (D : Descriptor → Prop) (i : String)
    (pre : Scene String → Prop) (p : Procedure α) (post : α → Scene String → Prop) : Prop :=
  (nodeConduct tokens locks D).Triple False i (fun _ => True) pre p post

variable {tokens locks : String} {D : Descriptor → Prop} {i : String} {pre : Scene String → Prop}

/-! ### Reading -/

theorem proper_read {s : Scene String} (hs : (nodeConduct tokens locks D).inv s)
    {call : StoreCall} (hcall : ∀ t key, ¬ call.WritesTo t key) {reached : Bool}
    {contents : Contents} (hcontents : Delivered call s.contents reached contents) :
    (nodeConduct tokens locks D).Proper i s (s.sent i call reached contents) := by
  have hlocks : (locksConduct locks).Proper i s (s.sent i call reached contents) :=
    Conduct.Proper.all fun k =>
      (hs.1 k).proper_sent (fun key _ => hcall locks key) reached hcontents.eq_or
  exact hlocks.inf (hs.2.proper_read hcall hcontents hlocks)

theorem proper_report {s : Scene String} (hs : (nodeConduct tokens locks D).inv s) {event : Event}
    (hevent : TakesNone event) : (nodeConduct tokens locks D).Proper i s (s.report i event) := by
  have hlocks : (locksConduct locks).Proper i s (s.report i event) :=
    Conduct.Proper.all fun k => (hs.1 k).proper_report (hevent k)
  exact hlocks.inf (hs.2.proper_report hlocks)

/-- A node may scan the table at any time. -/
theorem triple_scan (filter : Filter) (limit : Option Nat)
    (hstable : (nodeConduct tokens locks D).Stable i pre)
    (hpre : ∀ s, pre s → ∀ reached,
      pre (s.sent i (.scan tokens filter limit) reached s.contents)) :
    NodeTriple tokens locks D i pre (Procedure.call (.scan tokens filter limit)) fun answer s =>
      pre s ∧ ∀ scanned : Scanned, answer = .ok scanned →
        Scan ((s.contents.rows tokens).filter filter.selects) limit scanned := by
  have hreads : ∀ t key, ¬ (StoreCall.scan tokens filter limit).WritesTo t key :=
    fun _ _ hw => hw
  refine Conduct.Triple.scan tokens filter limit hstable (fun _ _ _ _ => trivial)
    (fun _ _ _ => ⟨fun _ => nofun, trivial⟩) (fun s hs _ reached => ?_) hpre
  refine proper_read hs hreads ?_
  cases reached with
  | false => exact .lost
  | true => exact .served

/-- A node may report anything but that a lock was taken. -/
theorem triple_report {event : Event} (hevent : TakesNone event)
    (hpre : ∀ s, pre s → pre (s.report i event)) :
    NodeTriple tokens locks D i pre (Procedure.report event) fun _ => pre :=
  Conduct.Triple.report (fun _ hs _ => proper_report hs hevent) fun s _ hp => hpre s hp

/-! ### Records of one machine -/

theorem within_decode (table : String) (rows : List Row) :
    (Roster.decode table rows).Within (fun _ => False) TakesNone fun records =>
      ∀ row ∈ rows, ∀ record, Descriptor.ofRow row = .ok record → record ∈ records := by
  have hskips : ∀ event, (∃ e, event = Event.rowSkipped table e) → TakesNone event := by
    rintro _ ⟨e, rfl⟩ k
    rfl
  refine ((Roster.within_decode_eq table rows).mono (fun _ h => h) hskips).weaken_result ?_
  rintro _ rfl row hmem record hrecord
  exact Roster.mem_recordsOf.mpr ⟨row, hmem, hrecord⟩

/-- A list of instances has every record of the application. -/
theorem triple_instances (application : String) :
    NodeTriple tokens locks D i (fun _ => True) (Roster.instances tokens application)
      fun answer s => ∀ records, answer = .ok records → ∀ row ∈ s.contents.rows tokens,
        (Roster.ofApplication application).selects row = true →
        ∀ record, Descriptor.ofRow row = .ok record → record ∈ records := by
  refine (triple_scan (Roster.ofApplication application) none (fun _ _ _ _ _ _ => trivial)
    fun _ _ _ => trivial).bind fun answer => ?_
  cases answer with
  | error e => exact Conduct.Triple.done fun _ _ _ => nofun
  | ok scanned =>
    obtain ⟨rows, failure⟩ : Scanned := scanned
    have hdecode : NodeTriple tokens locks D i
        (fun s => Scan ((s.contents.rows tokens).filter
          (Roster.ofApplication application).selects) none ⟨rows, failure⟩)
        (Roster.decode tokens rows) fun records s =>
          (∀ row ∈ rows, ∀ record, Descriptor.ofRow row = .ok record → record ∈ records) ∧
          Scan ((s.contents.rows tokens).filter
            (Roster.ofApplication application).selects) none ⟨rows, failure⟩ :=
      Conduct.Triple.of_within (within_decode tokens rows) (fun _ h => h.elim)
        (fun _ _ _ _ => trivial) (fun _ h => h.elim) (fun _ h => h.elim)
        fun event hevent s hs hp => ⟨proper_report hs hevent, hp⟩
    refine (hdecode.weaken_pre fun s _ hs => hs.2 _ rfl).bind fun records => ?_
    cases failure with
    | some e => exact Conduct.Triple.done fun _ _ _ => nofun
    | none =>
      refine Conduct.Triple.done fun s _ hs found hfound row hrow hselects record hrecord => ?_
      cases hfound
      have hread : rows = (s.contents.rows tokens).filter
          (Roster.ofApplication application).selects := hs.2.complete rfl
      rw [List.mem_eraseDups]
      refine hs.1 row ?_ record hrecord
      rw [hread]
      exact List.mem_filter.mpr ⟨hrow, hselects⟩

/-- A row of records under a machine's name is that of a descriptor of this machine. -/
theorem exists_of_owner {s : Scene String} (hs : (nodeConduct tokens locks D).inv s) {k : RowKey}
    (hk : Unguarding k.text) (howner : owner? tokens s k.text = some i) :
    ∃ d now, D d ∧ d.rowKey = k ∧ d.instanceId = i ∧
      s.contents.row? tokens k.text = some (d.stamp now).toAttributes := by
  obtain ⟨row, hrow, hname⟩ := Contents.exists_row?_of_attribute? howner
  obtain ⟨d, now, hd, hkey, rfl, hd_name, -⟩ := guarded_of_row? hs hk hrow
  exact ⟨d, now, hd, hkey, Option.some.inj (hd_name.symm.trans hname), hrow⟩

/-- If a machine finds no record for a descriptor of its own, it has none under the row key. -/
theorem triple_instance? (hD : Consistent D) {d : Descriptor} (hd : D d)
    (hi : d.instanceId = i) :
    NodeTriple tokens locks D i (fun _ => True)
      (Roster.instance? tokens d.application d.rack d.slot) fun answer s =>
        answer = .ok none → owner? tokens s d.rowKey.text ≠ some i := by
  refine (triple_instances d.application).bind fun answer => ?_
  cases answer with
  | error e => exact Conduct.Triple.done fun _ _ _ => nofun
  | ok records =>
    refine Conduct.Triple.done fun s hs hall hnone howner => ?_
    obtain ⟨d', now, hd', hkey, hi', hrow⟩ := exists_of_owner hs d.unguarding_rowKey howner
    obtain ⟨happlication, hslot, -, hrack⟩ :=
      hD d' d hd' hd (hi'.trans hi.symm) hkey
    have hselects : (Roster.ofApplication d.application).selects
        ⟨d.rowKey.text, (d'.stamp now).toAttributes⟩ = true := by
      rw [← happlication]
      exact Roster.ofApplication_selects (d := d'.stamp now)
    -- the record is among those that were listed, and it is for the slot in question
    have hmem := hall records rfl _ (Contents.mem_rows hrow) hselects _
      (Descriptor.ofRow_toAttributes (d'.stamp now) d.rowKey.text)
    have hmiss := List.find?_eq_none.mp (Except.ok.inj hnone) _ hmem
    simp only [Descriptor.stamp, hrack, hslot, beq_self_eq_true, Bool.and_self] at hmiss
    exact hmiss trivial

/-! ### The record of one slot -/

/-- A query for one instance selects only records of descriptors for this place. -/
theorem exists_of_selected {s : Scene String} (hs : (nodeConduct tokens locks D).inv s)
    {application datacenter rack : String} {slot : UInt32} {row : Row}
    (hrow : row ∈ s.contents.rows tokens)
    (hselects : (Roster.ofInstance application slot datacenter rack).selects row = true) :
    ∃ d, D d ∧ row.key = d.rowKey.text ∧ d.application = application ∧ d.slot = slot ∧
      d.datacenter = datacenter ∧ d.rack = rack := by
  obtain ⟨key, attributes⟩ := row
  have hfound : s.contents.row? tokens key = some attributes := Contents.mem_rows_iff.mp hrow
  rcases hs.2.record key attributes hfound with ⟨d, now, hd, hkey, rfl, -⟩ | ⟨rfl, k, hguarded⟩
  · have hselected := Roster.ofInstance_selects_iff.mp hselects
    simp only [Descriptor.stamp] at hselected
    exact ⟨d, hd, hkey, hselected⟩
  · have hown : OnlyEntered attributes :=
      fun name value hvalue => (hs.1 k).own key hguarded name value
        ((Contents.attribute?_of_row? hfound name).trans hvalue)
    cases (Roster.not_ofInstance_selects hown).symm.trans hselects

theorem key_eq_of_selected {s : Scene String} (hs : (nodeConduct tokens locks D).inv s)
    {d : Descriptor} {row : Row} (hrow : row ∈ (s.contents.rows tokens).filter
      (Roster.ofInstance d.application d.slot d.datacenter d.rack).selects) :
    row.key = d.rowKey.text := by
  obtain ⟨hmem, hselects⟩ := List.mem_filter.mp hrow
  obtain ⟨d', -, hkey, happlication, hslot, -, hrack⟩ := exists_of_selected hs hmem hselects
  rw [hkey, Descriptor.rowKey, happlication, hslot, hrack, Descriptor.rowKey]

/-- If a query for one instance selects nothing, there is no record of that slot under a lock that
the machine holds. -/
theorem row?_eq_none_of_not_selected (hD : Consistent D) {s : Scene String}
    (hs : (nodeConduct tokens locks D).inv s) {d : Descriptor} (hd : D d) (hi : d.instanceId = i)
    (hheld : s.holds locks d.rowKey i = true)
    (hnone : (s.contents.rows tokens).filter
      (Roster.ofInstance d.application d.slot d.datacenter d.rack).selects = []) :
    s.contents.row? tokens d.rowKey.text = none := by
  cases hrow : s.contents.row? tokens d.rowKey.text with
  | none => rfl
  | some row =>
    obtain ⟨-, d', now, hd', hkey, hi', rfl⟩ :=
      owner_eq_of_holds hs d.unguarding_rowKey hheld hrow
    have hselects : (Roster.ofInstance d.application d.slot d.datacenter d.rack).selects
        ⟨d.rowKey.text, (d'.stamp now).toAttributes⟩ = true :=
      Roster.ofInstance_selects_iff.mpr (hD d' d hd' hd (hi'.trans hi.symm) hkey)
    have hmem := List.mem_filter.mpr ⟨Contents.mem_rows hrow, hselects⟩
    rw [hnone] at hmem
    cases hmem

/-- A machine that holds the lock finds no key but that of the record under the row key, and if
there is a record, it finds it or fails. -/
theorem triple_key? (hD : Consistent D) {d : Descriptor} (hd : D d) (hi : d.instanceId = i) :
    NodeTriple tokens locks D i (fun s => s.holds locks d.rowKey i = true)
      (Roster.key? tokens d.application d.slot d.datacenter d.rack) fun answer s =>
        s.holds locks d.rowKey i = true ∧
          (answer = .ok none → s.contents.row? tokens d.rowKey.text = none) ∧
          ∀ key, answer = .ok (some key) → key = d.rowKey.text := by
  have hkey : NodeTriple tokens locks D i (fun s => s.holds locks d.rowKey i = true)
      (Roster.key? tokens d.application d.slot d.datacenter d.rack) _ :=
    triple_key?_of_scan (triple_scan _ _ (fun _ _ _ _ hrely h => (hrely.2.holds _).trans h)
      fun s h reached => (Scene.holds_sent_of_not_drops rfl _).trans h)
  refine hkey.strengthen_post fun answer s hs h => ⟨h.1, fun hnone => ?_, fun key hfound => ?_⟩
  · exact row?_eq_none_of_not_selected hD hs hd hi h.1 (h.2.1 hnone)
  · obtain ⟨row, hrow, rfl⟩ := h.2.2 key hfound
    exact key_eq_of_selected hs hrow

end ClusterIdentity.Claiming
