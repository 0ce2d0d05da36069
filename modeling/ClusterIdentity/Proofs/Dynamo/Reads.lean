import ClusterIdentity.Proofs.Dynamo.Writes

/-!
# Scans and reads by key

What is read of the service page by page, or batch by batch, are the rows that correspond to its
items, each of them once.

## Main definitions

* `Service.read`: the rows of those items of a table that pass a test

## Main statements

* `mem_read_iff`, `pairwise_read`: each corresponding row is read once
* `run_pages`: the pages of a scan, put together
* `carriesOut_scan`, `carriesOut_batchGet`: scans and reads by key are carried out as on the
  contents of a store
-/

namespace ClusterIdentity.Dynamo

open Expression

/-! ### Keys -/

theorem flatten_chunks (keys : List String) : (Client.chunks keys).flatten = keys := by
  fun_induction Client.chunks keys with
  | case1 keys hnil => exact (List.isEmpty_iff.mp hnil).symm
  | case2 keys hne ih => rw [List.flatten_cons, ih, List.take_append_drop]

/-- Each request asks for some keys, and not for too many. -/
theorem chunks_bounded {keys batch : List String} (h : batch ∈ Client.chunks keys) :
    batch ≠ [] ∧ batch.length ≤ Service.batchLimit := by
  fun_induction Client.chunks keys with
  | case1 keys hnil => cases h
  | case2 keys hne ih =>
    rcases List.mem_cons.mp h with rfl | h
    · rw [List.isEmpty_iff] at hne
      refine ⟨?_, List.length_take_le ..⟩
      rw [ne_eq, List.take_eq_nil_iff, not_or]
      exact ⟨by decide, hne⟩
    · exact ih h

/-- A batch of keys is in order if it names some keys, none twice, and not too many. -/
def BatchInOrder (keys : List String) : Prop :=
  keys ≠ [] ∧ keys.Nodup ∧ keys.length ≤ Service.batchLimit

/-- The groups of different keys are in order. -/
theorem batchInOrder_of_mem_chunks {keys batch : List String} (hkeys : keys.Nodup)
    (h : batch ∈ Client.chunks keys) : BatchInOrder batch := by
  obtain ⟨hne, hlimit⟩ := chunks_bounded h
  have hnodup := (List.pairwise_flatten.mp ((flatten_chunks keys).symm ▸ hkeys)).1 batch h
  exact ⟨hne, hnodup, hlimit⟩

theorem validKeys?_ofKeys {keys : List String} (h : BatchInOrder keys) :
    (KeyBatch.ofKeys keys).validKeys? = some keys := by
  have hkeys : (keys.map Item.ofKey).mapM Item.key? = some keys := by
    rw [List.mapM_map]
    exact (mapM_eq_some_map fun key _ => Item.key?_ofKey key).trans (congrArg _ (List.map_id' keys))
  have hvalid : (KeyBatch.ofKeys keys).isValid keys = true := by
    simp [KeyBatch.isValid, KeyBatch.ofKeys, h.1, h.2.1]
  have hread : (KeyBatch.ofKeys keys).keys.mapM Item.key? = some keys := hkeys
  rw [KeyBatch.validKeys?, hread]
  exact if_pos hvalid

/-- What is read of items is added to what was read before. -/
theorem get?_collect_of_mem_iff {items : List Item} (found : String → Option Attributes)
    (hmem : ∀ row, row ∈ items.filterMap Item.toRow? ↔ found row.key = some row.attributes)
    (hne : (items.filterMap Item.toRow?).Pairwise fun a b => a.key ≠ b.key) (rows : Rows)
    (key : String) :
    (Client.collect rows items).get? key = (found key).or (rows.get? key) := by
  have hentries : ((items.filterMap Item.toRow?).map fun row =>
      (row.key, row.attributes)).Pairwise fun a b => a.1 ≠ b.1 := List.pairwise_map.mpr hne
  have hlookup : Dict.lookup key ((items.filterMap Item.toRow?).map fun row =>
      (row.key, row.attributes)) = found key := by
    refine Option.ext fun attributes => ?_
    rw [← Dict.get?_ofList hentries, Dict.get?_ofList_eq_some_iff hentries, List.mem_map]
    constructor
    · rintro ⟨row, hrow, heq⟩
      obtain ⟨rfl, rfl⟩ := Prod.mk.inj heq
      exact (hmem row).mp hrow
    · intro hfound
      exact ⟨⟨key, attributes⟩, (hmem ⟨key, attributes⟩).mpr hfound, rfl⟩
  have hfold := Dict.get?_foldl_insert rows key hentries
  rwa [List.foldl_map, hlookup] at hfold

variable [KeyOrder ItemId] {s : Service} {contents : Contents} {table : String}

/-! ### Rows of items -/

/-- The rows of those items of a table that pass a test, in the order of the service. -/
def Service.read (s : Service) (table : String) (test : String → Item → Bool) : List Row :=
  s.items.toList.filterMap fun e =>
    if e.1.table = table ∧ test e.1.key e.2 = true then e.2.toRow? else none

/-- What an item of a table is read as. -/
theorem Corresponds.toRow?_eq (h : Corresponds s contents) {e : ItemId × Item}
    (he : e ∈ s.items.toList) :
    e.2.toRow? = (contents.row? e.1.table e.1.key).map (⟨e.1.key, ·⟩) := by
  have hplace := (h e.1.table e.1.key).toRow?_eq
  rwa [Service.item?, Dict.mem_toList_iff.mp he, Option.bind_some] at hplace

/-- The rows that are read are those of the items that pass the test. -/
theorem mem_read_iff (h : Corresponds s contents) {test : String → Item → Bool} {row : Row} :
    row ∈ s.read table test ↔ contents.row? table row.key = some row.attributes ∧
      ∃ item, s.item? table row.key = some item ∧ test row.key item = true := by
  rw [Service.read, List.mem_filterMap]
  constructor
  · rintro ⟨e, he, hrow⟩
    rw [Option.ite_none_right_eq_some, h.toRow?_eq he, Option.map_eq_some_iff] at hrow
    obtain ⟨⟨rfl, htest⟩, attributes, hattributes, rfl⟩ := hrow
    exact ⟨hattributes, e.2, Dict.mem_toList_iff.mp he, htest⟩
  · rintro ⟨hrow, item, hitem, htest⟩
    refine ⟨(⟨table, row.key⟩, item), Dict.mem_toList_iff.mpr hitem, ?_⟩
    rw [if_pos ⟨rfl, htest⟩, h.toRow?_eq (Dict.mem_toList_iff.mpr hitem), hrow]
    rfl

/-- No key is read twice. -/
theorem pairwise_read (h : Corresponds s contents) (test : String → Item → Bool) :
    (s.read table test).Pairwise fun a b => a.key ≠ b.key := by
  rw [Service.read, List.pairwise_filterMap]
  refine s.items.pairwise_ne.imp_of_mem fun {e e'} he he' hne a ha b hb hkey => ?_
  rw [Option.ite_none_right_eq_some, h.toRow?_eq he, Option.map_eq_some_iff] at ha
  rw [Option.ite_none_right_eq_some, h.toRow?_eq he', Option.map_eq_some_iff] at hb
  obtain ⟨⟨ht, -⟩, attributes, -, rfl⟩ := ha
  obtain ⟨⟨ht', -⟩, attributes', -, rfl⟩ := hb
  exact hne (ItemId.ext (ht.trans ht'.symm) hkey)

/-! ### Pages -/

/-- What is behind the key of an item is what of the items behind the start is behind it. -/
theorem Service.behind_of_mem {start : Option String} {e : ItemId × Item}
    (he : e ∈ s.behind table start) : s.behind table (some e.1.key) =
      (s.behind table start).filter fun x => KeyOrder.before e.1 x.1 := by
  rw [behind, List.mem_filter, Bool.and_eq_true, decide_eq_true_eq] at he
  obtain ⟨-, rfl, hstart⟩ := he
  rw [behind, behind, List.filter_filter]
  congr 1
  funext x
  change (decide _ && KeyOrder.before e.1 x.1) = _
  cases hx : KeyOrder.before e.1 x.1 with
  | false => rw [Bool.and_false, Bool.false_and]
  | true =>
    have hbehind : (start.all fun key => KeyOrder.before ⟨e.1.table, key⟩ x.1) = true := by
      cases start with
      | none => rfl
      | some key => exact KeyOrder.before_trans hstart hx
    rw [hbehind, Bool.and_true, Bool.true_and]

/-- What is behind the last item of a page. -/
theorem Service.behind_last {start : Option String} {front rest : List (ItemId × Item)}
    {e : ItemId × Item} (h : s.behind table start = front ++ e :: rest) :
    s.behind table (some e.1.key) = rest := by
  have hsorted : (front ++ e :: rest).Pairwise fun a b => KeyOrder.before a.1 b.1 = true :=
    h ▸ s.items.sorted.filter _
  have hmem : e ∈ s.behind table start := h ▸ List.mem_append_right _ (List.mem_cons_self ..)
  rw [List.pairwise_append, List.pairwise_cons] at hsorted
  obtain ⟨-, ⟨hrest, -⟩, hfront⟩ := hsorted
  have hnone : front.filter (fun x => KeyOrder.before e.1 x.1) = [] := by
    refine List.filter_eq_nil_iff.mpr fun x hx hbefore => ?_
    have hcycle := KeyOrder.before_trans hbefore (hfront x hx e (List.mem_cons_self ..))
    rw [KeyOrder.before_irrefl] at hcycle
    cases hcycle
  have hall : rest.filter (fun x => KeyOrder.before e.1 x.1) = rest :=
    List.filter_eq_self.mpr fun x hx => hrest x hx
  rw [behind_of_mem hmem, h, List.filter_append, List.filter_cons, hnone, hall,
    KeyOrder.before_irrefl]
  rfl

/-- A scan that is in order is answered with a page. -/
theorem Service.scan_eq (htable : table ∈ s.tables) {filter : Option Filter.Rendered}
    {conditions : List Condition}
    (hread : readConditions? ((filter.map fun f => ⟨f.names, f.values⟩).getD noPlaceholders)
      (filter.map Filter.Rendered.expression) = some conditions)
    (huses : usesAll ((filter.map fun f => ⟨f.names, f.values⟩).getD noPlaceholders)
      (filter.map Filter.Rendered.expression).toList = true) (start : Option String) :
    s.scan table filter (start.map .ofKey) =
      (.ok (s.page table conditions start).1, (s.page table conditions start).2) := by
  have hstart : (start.map Item.ofKey).mapM Item.key? = some start := by
    cases start with
    | none => rfl
    | some key => simp [Option.mapM_some, Item.key?_ofKey]
  rw [scan, if_neg (not_not_intro htable), hread, hstart]
  exact if_pos huses

/-- The row of an item for which conditions hold. -/
def selected? (conditions : List Condition) (e : ItemId × Item) : Option Row :=
  if conditions.all e.2.satisfies then e.2.toRow? else none

theorem filterMap_page (conditions : List Condition) (start : Option String) :
    (s.page table conditions start).1.items.filterMap Item.toRow? =
      ((s.behind table start).take (s.pageSizes 0 + 1)).filterMap (selected? conditions) := by
  rw [Service.page, List.filterMap_filter, List.filterMap_map]
  rfl

/-- A page that was filled announces the key of its last item. -/
theorem next?_page {start : Option String} {front rest : List (ItemId × Item)}
    {e : ItemId × Item} (h : s.behind table start = front ++ e :: rest)
    (hsize : front.length = s.pageSizes 0) (conditions : List Condition) :
    (s.page table conditions start).1.next? = some (.ofKey e.1.key) := by
  have hseen : (s.behind table start).take (s.pageSizes 0 + 1) = front ++ [e] := by
    rw [h, ← hsize, List.take_length_add_append]
    rfl
  have hfull : s.pageSizes 0 + 1 ≤ (s.behind table start).length := by
    rw [h, List.length_append, List.length_cons, hsize]
    omega
  rw [Page.next?, Service.page]
  simp only [hseen, if_pos hfull, List.getLast?_append, List.getLast?_singleton, Option.some_or,
    Option.map_some]
  rfl

/-- A page that was not filled is the last one. -/
theorem next?_page_of_lt {start : Option String}
    (h : (s.behind table start).length < s.pageSizes 0 + 1) (conditions : List Condition) :
    (s.page table conditions start).1.next? = none := by
  rw [Page.next?, Service.page]
  simp only [if_neg (Nat.not_le_of_lt h)]
  rfl

section Pages

variable {filter : Option Filter.Rendered} {conditions : List Condition}
  (hread : readConditions? ((filter.map fun f => ⟨f.names, f.values⟩).getD noPlaceholders)
    (filter.map Filter.Rendered.expression) = some conditions)
  (huses : usesAll ((filter.map fun f => ⟨f.names, f.values⟩).getD noPlaceholders)
    (filter.map Filter.Rendered.expression).toList = true)

include hread huses

/-- A page is read and then, unless it is the last one, those behind it. -/
theorem run_page (htable : table ∈ s.tables) (start : Option String) (rounds : Nat) :
    (Client.pages table filter (rounds + 1) (start.map .ofKey) none).run Service.answer s =
      let rows := ((s.behind table start).take (s.pageSizes 0 + 1)).filterMap
        (selected? conditions)
      let after := (s.page table conditions start).2
      match (s.page table conditions start).1.next? with
      | none => (⟨rows, none⟩, after)
      | some key =>
        let rest := (Client.pages table filter rounds (some key) none).run Service.answer after
        (⟨rows ++ rest.1.rows, rest.1.failure⟩, rest.2) := by
  have hsendable : (Request.scan table filter (start.map .ofKey)).isSendable = true := by
    rw [Request.isSendable, isSendable_of_mem htable]
    cases start <;> rfl
  rw [Client.pages, ← filterMap_page]
  refine (run_send (.scan ..) hsendable (Service.scan_eq htable hread huses start) _).trans ?_
  simp only [Option.map_none, reduceCtorEq, if_false]
  cases (s.page table conditions start).1.next? with
  | none => rfl
  | some key => exact Program.run_bind ..

/-- The pages of a scan tell of all items behind the start for which the conditions hold. -/
theorem run_pages {s : Service} (htable : table ∈ s.tables) (start : Option String) {rounds : Nat}
    (hrounds : (s.behind table start).length < rounds) :
    ∃ after, (Client.pages table filter rounds (start.map .ofKey) none).run Service.answer s =
        (⟨(s.behind table start).filterMap (selected? conditions), none⟩, after) ∧
      after.items = s.items ∧ after.tables = s.tables := by
  induction rounds generalizing s start with
  | zero => exact (Nat.not_lt_zero _ hrounds).elim
  | succ rounds ih =>
    rw [run_page hread huses htable]
    rcases Nat.lt_or_ge (s.pageSizes 0) (s.behind table start).length with hfull | hlast
    · obtain ⟨front, e, rest, hbehind, hsize⟩ : ∃ front e rest,
          s.behind table start = front ++ e :: rest ∧ front.length = s.pageSizes 0 :=
        ⟨_, _, _, by rw [← List.drop_eq_getElem_cons hfull, List.take_append_drop],
          List.length_take_of_le (Nat.le_of_lt hfull)⟩
      have hseen : (s.behind table start).take (s.pageSizes 0 + 1) = front ++ [e] := by
        rw [hbehind, ← hsize, List.take_length_add_append]
        rfl
      have hrest : (s.page table conditions start).2.behind table (some e.1.key) = rest :=
        Service.behind_last hbehind
      rw [hbehind, List.length_append, List.length_cons] at hrounds
      obtain ⟨after, hrun, hitems, htables⟩ :=
        ih (s := (s.page table conditions start).2) htable (some e.1.key) (by rw [hrest]; omega)
      refine ⟨after, ?_, hitems, htables⟩
      rw [hrest] at hrun
      rw [next?_page hbehind hsize, hseen, hbehind]
      change Program.run _ (Client.pages table filter rounds (some (.ofKey e.1.key)) none) _ = _
        at hrun
      simp only [hrun]
      rw [← List.filterMap_append, ← List.append_cons]
    · rw [next?_page_of_lt (Nat.lt_succ_of_le hlast),
        List.take_of_length_le (Nat.le_succ_of_le hlast)]
      exact ⟨_, rfl, rfl, rfl⟩

end Pages

/-! ### Scans -/

/-- A filter selects a row exactly if its equations hold for the item. -/
theorem Corresponds.equations_eq (h : Corresponds s contents) {filter : Filter}
    (hnames : ∀ e ∈ filter.equalities, e.1 ≠ keyAttribute) {key : String} {item : Item}
    {attributes : Attributes} (hitem : s.item? table key = some item)
    (hrow : contents.row? table key = some attributes) :
    (equations filter).all item.satisfies = filter.accepts attributes := by
  have hplace := h table key
  rw [hitem, hrow] at hplace
  rw [equations, List.all_map, Filter.accepts, Bool.eq_iff_iff, List.all_eq_true, List.all_eq_true]
  refine forall₂_congr fun e he => ?_
  have hequation : item.satisfies (.equals e.1 e.2) = _ := hplace.satisfies_eq (hnames e he)
  rw [Function.comp_apply, hequation]
  rfl

/-- The rows of a scan are those of a store, in some order. -/
theorem read_perm (h : Corresponds s contents) {filter : Filter}
    (hnames : ∀ e ∈ filter.equalities, e.1 ≠ keyAttribute) :
    (s.read table fun _ item => (equations filter).all item.satisfies).Perm
      ((contents.rows table).filter filter.selects) := by
  have hread : (s.read table fun _ item => (equations filter).all item.satisfies).Nodup :=
    (pairwise_read h _).imp fun hkey heq => hkey (congrArg Row.key heq)
  refine (List.perm_ext_iff_of_nodup hread ((contents.nodup_rows table).filter _)).mpr fun row => ?_
  rw [mem_read_iff h, List.mem_filter, Contents.mem_rows_iff]
  refine and_congr_right fun hrow => ?_
  constructor
  · rintro ⟨item, hitem, htest⟩
    exact (h.equations_eq hnames hitem hrow).symm.trans htest
  · intro hselects
    obtain ⟨item, hitem⟩ := h.exists_item hrow
    exact ⟨item, hitem, (h.equations_eq hnames hitem hrow).trans hselects⟩

/-- What changes nothing is carried out as on the contents of a store if its answer is right. -/
theorem CarriesOut.of_read {rounds : Nat} {call : StoreCall} {reply : call.Reply} {after : Service}
    (h : Corresponds s contents) (hperform : s.perform rounds call = (.ok reply, after))
    (hitems : after.items = s.items) (htables : after.tables = s.tables)
    (hreply : call.Agree reply (contents.perform call).1)
    (hcontents : (contents.perform call).2 = contents) : CarriesOut rounds call s contents := by
  constructor
  · exact ⟨reply, congrArg Prod.fst hperform, hreply⟩
  · intro t k
    rw [hperform, hcontents, Service.item?, hitems]
    exact h t k
  · rw [hperform]
    exact htables
  · rw [hperform, hitems]
    exact Nat.le_succ _

/-- A scan that reads all rows is carried out as on the contents of a store. -/
theorem carriesOut_scan (h : Corresponds s contents) (htable : table ∈ s.tables) {filter : Filter}
    (hnames : ∀ e ∈ filter.equalities, e.1 ≠ keyAttribute) {rounds : Nat}
    (hrounds : s.items.size < rounds) : CarriesOut rounds (.scan table filter none) s contents := by
  obtain ⟨hread, huses⟩ := readConditions?_sent filter
  have hshort : (s.behind table none).length < rounds :=
    Nat.lt_of_le_of_lt (List.length_filter_le ..) hrounds
  obtain ⟨after, hrun, hitems, htables⟩ := run_pages hread huses htable none hshort
  have hrows : (s.behind table none).filterMap (selected? (equations filter)) =
      s.read table fun _ item => (equations filter).all item.satisfies := by
    rw [Service.behind, List.filterMap_filter, Service.read]
    congr 1
    funext e
    by_cases ht : e.1.table = table <;> simp [ht, selected?]
  have hperform : s.perform rounds (.scan table filter none) =
      (.ok ⟨(s.behind table none).filterMap (selected? (equations filter)), none⟩, after) := by
    change ((Client.scan rounds table filter none).bind _).run Service.answer s = _
    change (Client.pages table _ rounds none none).run Service.answer s = _ at hrun
    rw [Program.run_bind, Client.scan, if_neg (by decide), hrun]
    rfl
  exact .of_read h hperform hitems htables ⟨hrows ▸ read_perm h hnames, rfl⟩ rfl

/-! ### Batches -/

theorem Service.batchGetItem_eq (htable : table ∈ s.tables) {keys : List String}
    (h : BatchInOrder keys) :
    s.batchGetItem (Client.firstBatch table keys) =
      (.ok ⟨Dict.singleton table (s.found table keys), ∅⟩, s) := by
  have hwanted : (Client.firstBatch table keys).toList.mapM
      (fun e => e.2.validKeys?.map (e.1, ·)) = some [(table, keys)] := by
    change [(table, KeyBatch.ofKeys keys)].mapM _ = _
    simp [validKeys?_ofKeys h]
  have hlimit : ¬ ([(table, keys)].isEmpty ||
      batchLimit < ([(table, keys)].flatMap Prod.snd).length) = true := by
    simpa using h.2.2
  have htables : ¬ ([(table, keys)].any fun e => !s.tables.contains e.1) = true := by
    simpa using htable
  rw [batchGetItem, hwanted]
  exact (if_neg hlimit).trans (if_neg htables)

/-- A batch that is in order is answered at once. -/
theorem run_drain (htable : table ∈ s.tables) {keys : List String} (h : BatchInOrder keys)
    (rounds : Nat) (rows : Rows) :
    (Client.drain table (rounds + 1) (Client.firstBatch table keys) rows).run Service.answer s =
      (.ok (Client.collect rows (s.found table keys)), s) := by
  have hsendable : (Request.batchGetItem (Client.firstBatch table keys)).isSendable = true := by
    have hknown : ((KeyBatch.ofKeys keys).keys.all Item.isKnown) = true :=
      List.all_eq_true.mpr fun item hitem => by
        obtain ⟨key, -, rfl⟩ := List.mem_map.mp hitem
        rfl
    change ((KeyBatch.ofKeys keys).keys.all Item.isKnown && true) = true
    rw [hknown]
    rfl
  have hcollected : ((Dict.singleton table (s.found table keys)).get? table).getD [] =
      s.found table keys := by
    rw [Dict.get?_singleton, if_pos rfl]
    rfl
  rw [Client.drain, if_neg (show ¬ (Client.firstBatch table keys).isEmpty = true from nofun)]
  refine (run_send (.batchGetItem _) hsendable (Service.batchGetItem_eq htable h) _).trans ?_
  simp only [hcollected]
  cases rounds <;> rfl

theorem run_drainAll (htable : table ∈ s.tables) (rounds : Nat) {groups : List (List String)}
    (h : ∀ keys ∈ groups, BatchInOrder keys) (rows : Rows) :
    (Client.drainAll (rounds + 1) table groups rows).run Service.answer s =
      (.ok (groups.foldl (fun rows keys => Client.collect rows (s.found table keys)) rows), s) := by
  induction groups generalizing rows with
  | nil => rfl
  | cons keys groups ih =>
    rw [Client.drainAll, Program.bind_eq_bind, Program.run_bind,
      run_drain htable (h keys (List.mem_cons_self ..))]
    exact ih (fun k hk => h k (List.mem_cons_of_mem _ hk)) _

/-- What was read of a batch is added to what was read before. -/
theorem get?_collect (h : Corresponds s contents) (keys : List String) (rows : Rows)
    (key : String) :
    (Client.collect rows (s.found table keys)).get? key =
      if key ∈ keys then (contents.row? table key).or (rows.get? key) else rows.get? key := by
  have hread : (s.found table keys).filterMap Item.toRow? =
      s.read table fun key _ => decide (key ∈ keys) := by
    rw [Service.found, List.filterMap_filterMap, Service.read]
    congr 1
    funext e
    by_cases hkey : e.1.table = table ∧ e.1.key ∈ keys <;> simp [hkey]
  have hmem : ∀ row, row ∈ (s.found table keys).filterMap Item.toRow? ↔
      (if row.key ∈ keys then contents.row? table row.key else none) = some row.attributes := by
    intro row
    rw [hread, mem_read_iff h, Option.ite_none_right_eq_some]
    constructor
    · rintro ⟨hrow, item, -, htest⟩
      exact ⟨of_decide_eq_true htest, hrow⟩
    · rintro ⟨hkey, hrow⟩
      obtain ⟨item, hitem⟩ := h.exists_item hrow
      exact ⟨hrow, item, hitem, decide_eq_true hkey⟩
  rw [get?_collect_of_mem_iff (fun key => if key ∈ keys then contents.row? table key else none)
    hmem (hread ▸ pairwise_read h _)]
  split <;> rfl

/-- Groups of keys are read one after the other into one map of rows. -/
theorem get?_foldl_collect (h : Corresponds s contents) (groups : List (List String)) (rows : Rows)
    (key : String) :
    (groups.foldl (fun rows keys => Client.collect rows (s.found table keys)) rows).get? key =
      if key ∈ groups.flatten then (contents.row? table key).or (rows.get? key)
      else rows.get? key := by
  induction groups generalizing rows with
  | nil => rfl
  | cons keys groups ih =>
    rw [List.foldl_cons, ih, get?_collect h, List.flatten_cons]
    by_cases hkeys : key ∈ keys <;> by_cases hgroups : key ∈ groups.flatten <;>
      cases contents.row? table key <;> simp [hkeys, hgroups]

/-- A read of keys, none of them twice, is carried out as on the contents of a store. -/
theorem carriesOut_batchGet (h : Corresponds s contents) (htable : table ∈ s.tables)
    {keys : List String} (hkeys : keys.Nodup) {rounds : Nat} (hrounds : 0 < rounds) :
    CarriesOut rounds (.batchGet table keys) s contents := by
  obtain ⟨rounds, rfl⟩ := Nat.exists_eq_succ_of_ne_zero (Nat.ne_of_gt hrounds)
  have hgroups : ∀ batch ∈ Client.chunks keys, BatchInOrder batch := fun _ hbatch =>
    batchInOrder_of_mem_chunks hkeys hbatch
  refine .of_read h (run_drainAll htable rounds hgroups ∅) rfl rfl ?_ rfl
  refine Dict.ext_get? fun key => ?_
  rw [get?_foldl_collect h, flatten_chunks]
  refine Eq.trans ?_ (contents.get?_select table hkeys key).symm
  rw [Dict.get?_emptyCollection, Option.or_none]

end ClusterIdentity.Dynamo
