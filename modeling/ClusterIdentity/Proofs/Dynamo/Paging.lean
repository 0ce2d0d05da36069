import ClusterIdentity.Proofs.Claim.Roster
import ClusterIdentity.Proofs.Dynamo.Writes
import ClusterIdentity.Simulation.World

/-!
# Paged scans

A scan is a run of requests, each for the page behind the one before. It ends with the first page
that announces no further one, with the first failure, or once its reader has enough rows; and it
asks for no page while the reader has rows left.

## Main definitions

* `Page.rows`, `rowsOf`: the rows of a page, and of some pages
* `Wants`: a reader has not enough rows yet
* `Course`, `Course.IsScan`: a run of requests and the pages it brought, and what makes it the run
  of a scan against the answers to come
* `Filter.sent?`, `scanBody`: a filter as it is sent, and the request for a page
* `LooksUp`: what the look-up of a key comes to

## Main statements

* `Course.IsScan.next`: a page before a run of requests
* `run_pages_script`: the run of a scan
* `scan_paged`: scans over a connection, whatever the answers are
-/

namespace ClusterIdentity

open Contents (limited)

/-- A filter as it is sent: not at all if it has no equations. -/
def Filter.sent? (filter : Filter) : Option Filter.Rendered :=
  if filter.equalities.isEmpty then none else some filter.render

/-- What a delivery means for a scan. Which scan it is makes no difference. -/
def Simulation.Delivery.page : Simulation.Delivery → Except Dynamo.Failure Dynamo.Page
  | answered reply => (Dynamo.Request.scan "" none none).decode reply
  | lost => .error .connection

/-! ### Readers -/

/-- What is read of a page. -/
def Dynamo.Page.rows (page : Dynamo.Page) : List Row := page.items.filterMap Dynamo.Item.toRow?

namespace Dynamo

open Expression (get?_numberedAlong numbered)
open Simulation (Backend Delivery Wire World)

/-- What is read of some pages, one after the other. -/
def rowsOf (pages : List Page) : List Row := pages.flatMap Page.rows

theorem rowsOf_cons (page : Page) (pages : List Page) :
    rowsOf (page :: pages) = page.rows ++ rowsOf pages :=
  List.flatMap_cons ..

theorem rowsOf_singleton (page : Page) : rowsOf [page] = page.rows := List.flatMap_singleton ..

/-- A reader that takes up to so many rows has not enough of them yet. -/
def Wants (limit : Option Nat) (rows : List Row) : Prop := ∀ n, limit = some n → rows.length < n

theorem wants_iff {limit : Option Nat} {rows : List Row} :
    Wants limit rows ↔ limit.map (· - rows.length) ≠ some 0 := by
  cases limit with
  | none => simp [Wants]
  | some n => simp [Wants]; omega

theorem wants_nil_iff {limit : Option Nat} : Wants limit [] ↔ limit ≠ some 0 := by
  rw [wants_iff]
  cases limit <;> simp

/-- What a reader still wants after it got some rows. -/
theorem wants_append_iff {limit : Option Nat} {rows more : List Row} (h : Wants limit rows) :
    Wants limit (rows ++ more) ↔ Wants (limit.map (· - rows.length)) more := by
  cases limit with
  | none => simp [Wants]
  | some n =>
    have hn := h n rfl
    simp only [Wants, Option.map_some, Option.some.injEq, forall_eq', List.length_append]
    omega

theorem limited_nil (limit : Option Nat) : limited limit [] = [] := by
  cases limit with
  | none => rfl
  | some n => exact List.take_nil

theorem limited_append (limit : Option Nat) (rows more : List Row) :
    limited limit (rows ++ more) =
      limited limit rows ++ limited (limit.map (· - rows.length)) more := by
  cases limit with
  | none => rfl
  | some n => exact List.take_append

/-! ### Runs of requests -/

/-- A run of requests for pages. -/
structure Course where
  /-- The pages that came back. -/
  pages : List Page
  /-- Where the page that each request asked for starts. -/
  starts : List (Option Item)
  /-- Why the run broke off, if it did. -/
  failure : Option Failure

namespace Course

/-- Where the page behind some pages starts. -/
def startBehind (first : Option Item) (pages : List Page) : Option Item :=
  (pages.map Page.next?).getLastD first

/-- A run ends for a reason: the reader has enough rows, or there is no further page, or the answer
to the last request was a failure, or the next request is not fit to be sent. -/
def EndsFor (limit : Option Nat) (first : Option Item) (sendable : Option Item → Bool)
    (answers : List (Except Failure Page)) (course : Course) : Prop :=
  match course.failure with
  | none => course.starts.length = course.pages.length ∧
      (¬ Wants limit (rowsOf course.pages) ∨
        ∃ page, course.pages.getLast? = some page ∧ page.next? = none)
  | some e => Wants limit (rowsOf course.pages) ∧
      (course.starts.length = course.pages.length + 1 ∧
          answers.getD course.pages.length (.error .connection) = .error e ∨
        course.starts.length = course.pages.length ∧ e = .unsendable ∧
          sendable (startBehind first course.pages) = false)

/-- The run is the one of a scan that starts with a page, against the answers to come. -/
structure IsScan (limit : Option Nat) (first : Option Item) (sendable : Option Item → Bool)
    (answers : List (Except Failure Page)) (course : Course) : Prop where
  /-- The pages are the first answers. -/
  answered : course.pages.map .ok <+: answers
  /-- The first request is for the first page, and each further one for the page behind the page
  before. -/
  in_order : course.starts <+: first :: course.pages.map Page.next?
  /-- A page is followed by another only if it announces one. -/
  announced : ∀ start ∈ course.starts.tail, start.isSome = true
  sent : ∀ start ∈ course.starts, sendable start = true
  /-- A page is asked for only if the pages before it have too few rows for the reader. -/
  lazy : ∀ i < course.starts.length, Wants limit (rowsOf (course.pages.take i))
  ends_for : course.EndsFor limit first sendable answers

/-- What the reader of a run gets: the rows of the pages, and then the failure. -/
def scanned (course : Course) (table : String) (limit : Option Nat) : Scanned :=
  ⟨limited limit (rowsOf course.pages), course.failure.map (Client.storeError table)⟩

/-- What a run leaves of a connection. -/
def leaves (course : Course) (table : String) (filter : Option Filter.Rendered) (wire : Wire) :
    Wire :=
  ⟨wire.script.drop course.starts.length,
    (course.starts.map (.scan table filter)).reverse ++ wire.sent⟩

variable {limit : Option Nat} {first : Option Item} {sendable : Option Item → Bool}
  {answers : List (Except Failure Page)} {page : Page}

/-- Nothing is asked for if the reader has enough. -/
theorem IsScan.satisfied (h : ¬ Wants limit []) :
    IsScan limit first sendable answers ⟨[], [], none⟩ :=
  ⟨List.nil_prefix, List.nil_prefix, nofun, nofun, nofun, rfl, .inl h⟩

theorem IsScan.unsendable (h : Wants limit []) (hfirst : sendable first = false) :
    IsScan limit first sendable answers ⟨[], [], some .unsendable⟩ :=
  ⟨List.nil_prefix, List.nil_prefix, nofun, nofun, nofun, h, .inr ⟨rfl, rfl, hfirst⟩⟩

theorem IsScan.failed (h : Wants limit []) (hfirst : sendable first = true) {e : Failure}
    (hanswer : answers.getD 0 (.error .connection) = .error e) :
    IsScan limit first sendable answers ⟨[], [first], some e⟩ where
  answered := List.nil_prefix
  in_order := List.prefix_refl _
  announced := nofun
  sent := List.forall_mem_singleton.mpr hfirst
  lazy i hi := by
    rw [List.take_nil]
    exact h
  ends_for := ⟨h, .inl ⟨rfl, hanswer⟩⟩

/-- The run after one page. The page is the last one if it is enough for the reader or announces no
other. -/
theorem IsScan.last (h : Wants limit []) (hfirst : sendable first = true)
    (hlast : ¬ Wants limit page.rows ∨ page.next? = none) :
    IsScan limit first sendable (.ok page :: answers) ⟨[page], [first], none⟩ where
  answered := List.prefix_append [Except.ok page] answers
  in_order := List.prefix_append [first] [page.next?]
  announced := nofun
  sent := List.forall_mem_singleton.mpr hfirst
  lazy i hi := by
    obtain rfl : i = 0 := Nat.lt_one_iff.mp hi
    exact h
  ends_for := by
    refine ⟨rfl, hlast.imp (fun hrows => ?_) fun hnext => ⟨page, rfl, hnext⟩⟩
    rwa [rowsOf_singleton]

/-- A page that announces another one, before a run that starts with that one. -/
theorem IsScan.next (h : Wants limit []) (hfirst : sendable first = true) {key : Item}
    (hnext : page.next? = some key) (hrows : Wants limit page.rows) {course : Course}
    (hcourse : IsScan (limit.map (· - page.rows.length)) (some key) sendable answers course) :
    IsScan limit first sendable (.ok page :: answers)
      ⟨page :: course.pages, first :: course.starts, course.failure⟩ where
  answered := List.cons_prefix_cons.mpr ⟨rfl, hcourse.answered⟩
  in_order := by
    rw [List.map_cons, hnext]
    exact List.cons_prefix_cons.mpr ⟨rfl, hcourse.in_order⟩
  announced := by
    -- the page behind this one is the first page of the run that follows
    show ∀ start ∈ course.starts, start.isSome = true
    have horder := hcourse.in_order
    have hannounced := hcourse.announced
    cases hstarts : course.starts with
    | nil => exact nofun
    | cons start rest =>
      rw [hstarts] at horder hannounced
      exact List.forall_mem_cons.mpr
        ⟨(List.cons_prefix_cons.mp horder).1 ▸ rfl, hannounced⟩
  sent := List.forall_mem_cons.mpr ⟨hfirst, hcourse.sent⟩
  lazy := by
    intro i hi
    cases i with
    | zero => exact h
    | succ i =>
      rw [List.take_succ_cons, rowsOf_cons, wants_append_iff hrows]
      exact hcourse.lazy i (Nat.lt_of_succ_lt_succ hi)
  ends_for := by
    have hends := hcourse.ends_for
    obtain ⟨pages, starts, failure⟩ := course
    have hwants : Wants limit (rowsOf (page :: pages)) ↔
        Wants (limit.map (· - page.rows.length)) (rowsOf pages) := wants_append_iff hrows
    cases failure with
    | none =>
      obtain ⟨hlength, hlast⟩ := hends
      refine ⟨congrArg Nat.succ hlength, hlast.imp (mt hwants.mp) ?_⟩
      rintro ⟨last, hlast, hnone⟩
      exact ⟨last, by rw [List.getLast?_cons, hlast]; rfl, hnone⟩
    | some e =>
      obtain ⟨hmore, hfailed⟩ := hends
      refine ⟨hwants.mpr hmore, hfailed.imp (fun h => ?_) fun h => ?_⟩
      · exact ⟨congrArg Nat.succ h.1, h.2⟩
      · refine ⟨congrArg Nat.succ h.1, h.2.1, ?_⟩
        rw [startBehind, List.map_cons, List.getLastD_cons, hnext]
        exact h.2.2

end Course

/-! ### Scans over a connection -/

section Script

variable (table : String) (filter : Option Filter.Rendered)

theorem run_send_script {α : Type} {first : Option Item}
    (h : (Request.scan table filter first).isSendable = true) (script : List Delivery)
    (sent : List Request) (next : Except Failure Page → Exchange α) :
    ((send (.scan table filter first)).bind next).run Wire.send ⟨script, sent⟩ =
      (next ((script.map Delivery.page).getD 0 (.error .connection))).run Wire.send
        ⟨script.tail, .scan table filter first :: sent⟩ := by
  refine (run_send_bind Wire.send _ h _ next).trans ?_
  cases script with
  | nil => rfl
  | cons delivery rest => cases delivery <;> rfl

/-- One request of a scan, and what comes after it. -/
theorem run_pages_succ {first : Option Item}
    (h : (Request.scan table filter first).isSendable = true) (script : List Delivery)
    (sent : List Request) (rounds : Nat) (limit : Option Nat) :
    (Client.pages table filter (rounds + 1) first limit).run Wire.send ⟨script, sent⟩ =
      let after : Wire := ⟨script.tail, .scan table filter first :: sent⟩
      match (script.map Delivery.page).getD 0 (.error .connection) with
      | .error e => (⟨[], some (Client.storeError table e)⟩, after)
      | .ok page =>
        if limit.map (· - page.rows.length) = some 0 then (⟨limited limit page.rows, none⟩, after)
        else
          match page.next? with
          | none => (⟨limited limit page.rows, none⟩, after)
          | some key =>
            let rest := (Client.pages table filter rounds (some key)
              (limit.map (· - page.rows.length))).run Wire.send after
            (⟨limited limit page.rows ++ rest.1.rows, rest.1.failure⟩, rest.2) := by
  rw [Client.pages]
  refine (run_send_script table filter h script sent _).trans ?_
  cases (script.map Delivery.page).getD 0 (.error .connection) with
  | error e => rfl
  | ok page =>
    show Program.run Wire.send (if limit.map (· - page.rows.length) = some 0 then _ else _) _ =
      if limit.map (· - page.rows.length) = some 0 then _ else _
    split
    · rfl
    · cases page.next? with
      | none => rfl
      | some key => exact Program.run_bind ..

/-- The run of a scan against a script. -/
theorem run_pages_script {rounds : Nat} {script : List Delivery} (hrounds : script.length < rounds)
    (first : Option Item) {limit : Option Nat} (hlimit : Wants limit []) (sent : List Request) :
    ∃ course : Course,
      course.IsScan limit first (fun start => (Request.scan table filter start).isSendable)
        (script.map Delivery.page) ∧
      (Client.pages table filter rounds first limit).run Wire.send ⟨script, sent⟩ =
        (course.scanned table limit, course.leaves table filter ⟨script, sent⟩) := by
  induction rounds generalizing script first limit sent with
  | zero => exact (Nat.not_lt_zero _ hrounds).elim
  | succ rounds ih =>
    have hnil : limited limit (rowsOf []) = [] := limited_nil limit
    cases hsendable : (Request.scan table filter first).isSendable with
    | false =>
      refine ⟨⟨[], [], some .unsendable⟩, .unsendable hlimit hsendable, ?_⟩
      rw [Client.pages, send, if_neg (by rw [hsendable]; decide), Course.scanned, hnil]
      rfl
    | true =>
      rw [run_pages_succ table filter hsendable]
      cases hanswer : (script.map Delivery.page).getD 0 (.error .connection) with
      | error e =>
        refine ⟨⟨[], [first], some e⟩, .failed hlimit hsendable hanswer, ?_⟩
        rw [Course.scanned, hnil]
        cases script <;> rfl
      | ok page =>
        obtain ⟨delivery, rest, rfl, hpage⟩ : ∃ delivery rest, script = delivery :: rest ∧
            delivery.page = .ok page := by
          cases script with
          | nil => cases hanswer
          | cons delivery rest => exact ⟨delivery, rest, rfl, hanswer⟩
        rw [List.map_cons, hpage]
        simp only [List.tail_cons]
        by_cases hmore : Wants limit page.rows
        · rw [if_neg (wants_iff.mp hmore)]
          cases hnext : page.next? with
          | none =>
            refine ⟨⟨[page], [first], none⟩, .last hlimit hsendable (.inr hnext), ?_⟩
            rw [Course.scanned, rowsOf_singleton]
            rfl
          | some key =>
            obtain ⟨course, hcourse, hrun⟩ := ih (Nat.lt_of_succ_lt_succ hrounds) (some key)
              (wants_nil_iff.mpr (wants_iff.mp hmore)) (.scan table filter first :: sent)
            refine ⟨_, .next hlimit hsendable hnext hmore hcourse, ?_⟩
            simp only [hrun]
            rw [Course.scanned, Course.scanned, rowsOf_cons, limited_append, Course.leaves,
              Course.leaves, List.map_cons, List.reverse_cons, List.append_assoc]
            rfl
        · rw [if_pos (not_not.mp (mt wants_iff.mpr hmore))]
          refine ⟨⟨[page], [first], none⟩, .last hlimit hsendable (.inl hmore), ?_⟩
          rw [Course.scanned, rowsOf_singleton]
          rfl

end Script

/-- Which starts make requests that are fit to be sent. -/
def canStart (table : String) (filter : Filter) (start : Option Item) : Bool :=
  (Request.scan table filter.sent? start).isSendable

/-- A scan over a connection. -/
theorem serve_scan (table : String) (filter : Filter) (limit : Option Nat) (wire : Wire) :
    ∃ course : Course,
      course.IsScan limit none (canStart table filter) (wire.script.map Delivery.page) ∧
      Backend.serve (.scan table filter limit) (.remote wire) =
        (.ok (course.scanned table limit), .remote (course.leaves table filter.sent? wire)) := by
  by_cases hlimit : limit = some 0
  · subst hlimit
    exact ⟨⟨[], [], none⟩, .satisfied fun h => wants_nil_iff.mp h rfl, rfl⟩
  · obtain ⟨course, hcourse, hrun⟩ := run_pages_script table filter.sent?
      (Nat.lt_succ_self wire.script.length) none (wants_nil_iff.mpr hlimit) wire.sent
    refine ⟨course, hcourse, ?_⟩
    have hscan : Client.scan wire.rounds table filter limit =
        Client.pages table filter.sent? (wire.script.length + 1) none limit := if_neg hlimit
    show (_, Backend.remote _) = _
    rw [Client.perform, Program.bind_eq_bind, Program.run_bind, hscan, hrun]
    rfl

/-- What is sent for a page: the table, that the read is to see all earlier writes, where the page
starts unless it is the first one, and the filter unless it has no equations. -/
def scanBody (table : String) (filter : Filter) (start : Option Item) : Json :=
  .object <|
    [("TableName", .string table), ("ConsistentRead", .bool true)] ++
    (start.toList.map fun key => ("ExclusiveStartKey", key.toJson)) ++
    if filter.equalities = [] then []
    else
      [("FilterExpression", .string filter.render.expression),
        ("ExpressionAttributeNames", textsJson filter.render.names),
        ("ExpressionAttributeValues",
          .object (filter.render.values.toList.map fun e =>
            (e.1, (AttributeValue.text e.2).toJson)))]

theorem body_scan (table : String) (filter : Filter) (start : Option Item) :
    (Request.scan table filter.sent? start).body = scanBody table filter start := by
  rw [scanBody]
  cases hequalities : filter.equalities with
  | nil =>
    have hsent : filter.sent? = none := if_pos (by rw [hequalities]; rfl)
    rw [hsent, if_pos rfl]
    cases start <;> rfl
  | cons e rest =>
    have hsent : filter.sent? = some filter.render := if_neg (by rw [hequalities]; nofun)
    -- the first equation has its placeholders
    have hfirst : filter.equalities[0]? = some e := by rw [hequalities]; rfl
    have hname : filter.render.names.get? (numbered "#n" 0) = some e.1 :=
      get?_numberedAlong Prod.fst filter.equalities hfirst
    have hvalue : filter.render.values.get? (numbered ":v" 0) = some e.2 :=
      get?_numberedAlong Prod.snd filter.equalities hfirst
    have hnames : ¬ filter.render.names.isEmpty = true := fun hempty => by
      cases (Dict.isEmpty_iff.mp hempty _).symm.trans hname
    have hvalues : ¬ filter.render.values.isEmpty = true := fun hempty => by
      cases (Dict.isEmpty_iff.mp hempty _).symm.trans hvalue
    rw [hsent, if_neg (List.cons_ne_nil e rest)]
    simp only [Request.body, Request.placeholderMembers, if_neg hnames, if_neg hvalues,
      List.append_assoc]
    rfl

/-- A run of requests is all that a look-up of a key does over a connection, and it sends none
beyond the first page with a row. -/
structure LooksUp (table application : String) (slot : UInt32) (datacenter rack : String)
    (wire : Wire) (now : UInt64) (course : Course) : Prop where
  isScan : course.IsScan (some 1) none
    (canStart table (Roster.ofInstance application slot datacenter rack))
    (wire.script.map Delivery.page)
  no_row_before : ∀ i < course.starts.length, rowsOf (course.pages.take i) = []
  result : ((Roster.key? table application slot datacenter rack).run World.performEffect
      (World.start (.remote wire) now)).1 =
    Roster.firstKey (.ok (course.scanned table (some 1)))
  sent : ((Roster.key? table application slot datacenter rack).run World.performEffect
      (World.start (.remote wire) now)).2.backend =
    .remote (course.leaves table (Roster.ofInstance application slot datacenter rack).sent? wire)

theorem looksUp_key? (table application : String) (slot : UInt32) (datacenter rack : String)
    (wire : Wire) (now : UInt64) :
    ∃ course, LooksUp table application slot datacenter rack wire now course := by
  obtain ⟨course, hcourse, hserve⟩ := serve_scan table
    (Roster.ofInstance application slot datacenter rack) (some 1) wire
  have hanswer : (World.performEffect (.call (.scan table
      (Roster.ofInstance application slot datacenter rack) (some 1)))
      (World.start (.remote wire) now)).1 = .ok (course.scanned table (some 1)) :=
    congrArg Prod.fst hserve
  have hbackend : (World.performEffect (.call (.scan table
      (Roster.ofInstance application slot datacenter rack) (some 1)))
      (World.start (.remote wire) now)).2.backend = .remote (course.leaves table
        (Roster.ofInstance application slot datacenter rack).sent? wire) :=
    congrArg Prod.snd hserve
  refine ⟨course, hcourse, fun i hi => ?_, ?_, ?_⟩
  · exact List.length_eq_zero_iff.mp (Nat.lt_one_iff.mp (hcourse.lazy i hi 1 rfl))
  · rw [Roster.run_key?]
    exact congrArg Roster.firstKey hanswer
  · rw [Roster.run_key?]
    exact hbackend

/-- **Scans.** Over a connection with any answers to come, a scan sends nothing before its reader
asks for a row. Then it is a run of requests that all are for the same table, with the same filter,
and its reader gets the rows of the pages in their order and at most one failure, with which the run
ends. A look-up of a key sends no request beyond the first page with a row. -/
theorem scan_paged (table : String) (filter : Filter) (wire : Wire) :
    Backend.serve (.scan table filter (some 0)) (.remote wire) =
      (.ok ⟨[], none⟩, .remote wire) ∧
    (∀ limit, ∃ course : Course,
      course.IsScan limit none (canStart table filter) (wire.script.map Delivery.page) ∧
      Backend.serve (.scan table filter limit) (.remote wire) =
        (.ok (course.scanned table limit), .remote (course.leaves table filter.sent? wire))) ∧
    (∀ start, (Request.scan table filter.sent? start).target = "Scan" ∧
      (Request.scan table filter.sent? start).body = scanBody table filter start) ∧
    (∀ (item : Item) row, item.toRow? = some row ↔
      item.get? keyAttribute = some (.text row.key) ∧ item.HasAttribute ∧
      ∀ name, row.get? name =
        if name = keyAttribute then none else (item.get? name).bind AttributeValue.string?) ∧
    (∀ e, e = .service .resourceNotFound ∧ Client.storeError table e = .noSuchTable table ∨
      e ≠ .service .resourceNotFound ∧ ∃ cause, Client.storeError table e = .unavailable cause) ∧
    ∀ application slot datacenter rack now, ∃ course,
      LooksUp table application slot datacenter rack wire now course := by
  refine ⟨rfl, fun limit => serve_scan table filter limit wire, fun start => ?_,
    fun item row => Item.toRow?_eq_some_iff, Client.storeError_cases table, ?_⟩
  · exact ⟨rfl, body_scan table filter start⟩
  · intro application slot datacenter rack now
    exact looksUp_key? table application slot datacenter rack wire now

end Dynamo

end ClusterIdentity
