import ClusterIdentity.Proofs.Claim.Sessions

/-!
# Isolation of identities

Any number of sessions claim and give up identities, several of them possibly for one machine.
What they do for one row key has nothing to do with any other. But the row key of an identity is
its application, rack and slot joined by underscores, so that it does not tell where the
application ends and the rack begins: identities that differ in nothing else share everything.

## Main definitions

* `SessionCalls`, `sessionRules`: sessions that work for descriptors
* `SameRows`: the rows of a row key are the same
* `Isolated`: sessions leave alone, and are left alone by, those for other row keys

## Main statements

* `sessions_sound`: sessions keep to the conduct in every state that they reach
* `isolated_of_distinct_rowKeys`: identities with different row keys do not interfere
* `heldByOther_despite_distinct_places`: identities with the same row key do
-/

namespace ClusterIdentity.Claiming

open Interleaving Locking RowKey

/-- Why a claim failed, if it did. -/
def failure? {α : Type} : Except ClaimError α → Option ClaimError
  | .ok _ => none
  | .error e => some e

/-- The calls that a session may make for its descriptor. It keeps a note of why the latest call
failed. -/
inductive SessionCalls (tokens locks : String) (d : Descriptor) :
    Option ClaimError → Option ClaimError → Procedure (Option ClaimError) → Prop
  | create (registry : Registry) (htokens : registry.tokens = tokens)
    (hlocks : registry.locks.name = locks) (note : Option ClaimError) :
    SessionCalls tokens locks d note none
      ((registry.create d).bind fun answer => .done (failure? answer))
  | delete (registry : Registry) (htokens : registry.tokens = tokens)
    (hlocks : registry.locks.name = locks) (note : Option ClaimError) :
    SessionCalls tokens locks d note none
      ((registry.delete d).bind fun answer => .done (failure? answer))

variable {ι : Type}

/-- Sessions that each work for one descriptor. -/
def sessionRules (tokens locks : String) (descriptor : ι → Descriptor) (reliable : Prop) :
    Rules ι (Option ClaimError) :=
  ⟨reliable, fun i => SessionCalls tokens locks (descriptor i)⟩

/-- The record under a row key and the rows that guard it are the same. -/
structure SameRows (tokens locks : String) (k : RowKey) (before after : Contents) : Prop where
  record : after.row? tokens k.text = before.row? tokens k.text
  choosing : after.row? locks k.choosing = before.row? locks k.choosing
  lock : after.row? locks k.lock = before.row? locks k.lock

/-- Each session works for its own descriptor. -/
abbrev WorksFor (descriptor : ι → Descriptor) (i : ι) (d : Descriptor) : Prop := d = descriptor i

/-- What is known of a session between calls: whoever made its latest one fail works for the same
row key. -/
def RestsBlamed (locks : String) (descriptor : ι → Descriptor) (i : ι)
    (note : Option ClaimError) (s : Scene ι) : Prop :=
  ∀ error, note = some error →
    ClaimBlamed locks (WorksFor descriptor) (descriptor i) s.history error

theorem lasting_restsBlamed (locks : String) (descriptor : ι → Descriptor) (i : ι)
    (note : Option ClaimError) : Lasting (RestsBlamed locks descriptor i note) := by
  intro a b hsub hblamed error hnote
  have hbefore := hblamed error hnote
  cases error with
  | lockFailed cause => exact lasting_blamed cause a b hsub hbefore
  | storeUnavailable e => trivial

variable [DecidableEq ι]

/-- Sessions for different row keys leave each other alone. -/
structure Isolated (tokens locks : String) (descriptor : ι → Descriptor)
    (s : State ι (Option ClaimError)) : Prop where
  /-- A move changes nothing in the store, or it answers a request of a session and changes no rows
  but those of its row key. -/
  frame : ∀ s', Step (sessionRules tokens locks descriptor False) s s' →
    s'.contents = s.contents ∨ ∃ i fallback call next,
      s.activity i = .sending fallback call next ∧
      ∀ application rack slot, ofSlot application rack slot ≠ (descriptor i).rowKey →
        SameRows tokens locks (ofSlot application rack slot) s.contents s'.contents
  /-- The entries of guarding rows are those of sessions for the row key. -/
  entered : ∀ k key, k.GuardedBy key → ∀ name value,
    s.contents.attribute? locks key name = some value →
    Entered locks (WorksFor descriptor) k key name s.history
  heldByOther : ∀ i key holder,
    s.activity i = .idle (some (.lockFailed (.heldByOther key holder))) →
    key = (descriptor i).rowKey.lock ∧ holder ≠ (descriptor i).instanceId ∧
      Entered locks (WorksFor descriptor) (descriptor i).rowKey key holder s.history
  contention : ∀ i key contenders,
    s.activity i = .idle (some (.lockFailed (.contention key contenders))) →
    key = (descriptor i).rowKey.choosing ∧ ∃ name, name ≠ (descriptor i).instanceId ∧
      Entered locks (WorksFor descriptor) (descriptor i).rowKey key name s.history

variable {tokens locks : String} {descriptor : ι → Descriptor} {s s' : State ι (Option ClaimError)}

omit [DecidableEq ι] in
/-- A request that a session may send changes no rows but those of its row key. -/
theorem sameRows_of_may {i : ι} {scene : Scene ι} {call : StoreCall} {contents : Contents}
    {reached : Bool} (hcontents : Delivered call scene.contents reached contents)
    (hname : ∀ t key, call.WritesTo t key → (descriptor i).rowKey.Names key) {k : RowKey}
    (hk : Unguarding k.text) (hne : k ≠ (descriptor i).rowKey) :
    SameRows tokens locks k scene.contents contents := by
  have hsame : ∀ t key, k.Names key → contents.row? t key = scene.contents.row? t key := by
    intro t key hkey
    rcases hcontents.eq_or with rfl | rfl
    · rfl
    · refine Contents.row?_perform fun hw => hne ?_
      exact hkey.unique hk (descriptor i).unguarding_rowKey (hname t key hw)
  exact ⟨hsame _ _ (.inl rfl), hsame _ _ (.inr k.guardedBy_choosing),
    hsame _ _ (.inr k.guardedBy_lock)⟩

/-- In every state that sessions reach, each of them keeps to the conduct. -/
theorem sessions_sound
    (hreach : Reaches (sessionRules tokens locks descriptor False) (State.initial ∅ none) s) :
    (identityConduct tokens locks (WorksFor descriptor)).Sound False
      (RestsBlamed locks descriptor) s := by
  have hstart : (identityConduct tokens locks (WorksFor descriptor)).Sound False
      (RestsBlamed locks descriptor) (State.initial ∅ none) := by
    refine ⟨⟨nofun, nofun⟩, fun i note hi => ?_, fun i _ _ _ hi => ?_⟩
    · cases hi
      exact fun _ => nofun
    · cases hi
  have hdone : ∀ {α : Type} (i : ι) (answer : Except ClaimError α),
      SessionTriple tokens locks (WorksFor descriptor) i
        (FailsBlamed locks (WorksFor descriptor) (descriptor i) answer)
        (.done (failure? answer)) (RestsBlamed locks descriptor i) := by
    intro α i answer
    refine Conduct.Triple.done fun s _ hs error herror => ?_
    cases answer with
    | ok _ => cases herror
    | error e =>
      cases herror
      exact hs error rfl
  have hcalls : ∀ i note fallback p,
      (sessionRules tokens locks descriptor False).allows i note fallback p →
      (identityConduct tokens locks (WorksFor descriptor)).Triple False i
        (RestsBlamed locks descriptor i fallback) (RestsBlamed locks descriptor i note) p
        (RestsBlamed locks descriptor i) := by
    intro i note fallback p hcall
    have hrun : SessionTriple tokens locks (WorksFor descriptor) i (fun _ => True) p
        (RestsBlamed locks descriptor i) := by
      have hd : WorksFor descriptor i (descriptor i) := rfl
      cases hcall with
      | create registry htokens hlocks note =>
        exact (session_create htokens hlocks hd).bind fun answer => hdone i answer
      | delete registry htokens hlocks note =>
        exact (session_delete htokens hlocks hd).bind fun answer => hdone i answer
    have hfallback : fallback = none := by cases hcall <;> rfl
    refine (hrun.weaken_pre fun _ _ _ => trivial).weaken_keep fun _ _ error herror => ?_
    cases hfallback.symm.trans herror
  exact Conduct.sound (fun i note => (lasting_restsBlamed locks descriptor i note).stable)
    hcalls hstart hreach

/-- Sessions for different row keys leave each other alone in every state that they reach. -/
theorem isolated_of_reaches
    (hreach : Reaches (sessionRules tokens locks descriptor False) (State.initial ∅ none) s) :
    Isolated tokens locks descriptor s := by
  have hsound := sessions_sound hreach
  refine ⟨fun s' hstep => ?_, fun k key hkey name value hvalue =>
      (hsound.inv.entered k key hkey name value hvalue).2, fun i key holder hidle =>
      hsound.idle i _ hidle _ rfl, fun i key contenders hidle => hsound.idle i _ hidle _ rfl⟩
  cases hstep with
  | call now hidle hallows => exact .inl (contents_advance ..)
  | @answer i fallback call next verdict now hsending hverdict =>
    refine .inr ⟨i, fallback, call, next, hsending, fun application rack slot hne => ?_⟩
    have hname : ∀ t key, call.WritesTo t key → (descriptor i).rowKey.Names key := by
      intro t key hw
      obtain ⟨d, rfl, ⟨-, hkey, -⟩ | ⟨-, hkey⟩⟩ := hsound.may hsending t key hw
      · exact .inl hkey
      · exact .inr hkey
    have hrows : SameRows tokens locks (ofSlot application rack slot) s.contents _ :=
      sameRows_of_may (delivered_serve verdict call s.contents) hname
        (unguarding_text_ofSlot application rack slot) hne
    rw [State.goOn, contents_advance]
    exact hrows
  | abandon hfaulty hsending => exact .inl rfl

/-- **Isolation.** Row keys are the same exactly if slots are and the application and the rack
joined by an underscore are. Identities with different row keys have no key in common, and what is
done for one of them has nothing to do with the other. -/
theorem isolated_of_distinct_rowKeys
    (hreach : Reaches (sessionRules tokens locks descriptor False) (State.initial ∅ none) s) :
    (∀ application application' rack rack' slot slot',
      (ofSlot application rack slot = ofSlot application' rack' slot' ↔
        slot = slot' ∧ application ++ "_" ++ rack = application' ++ "_" ++ rack') ∧
      (ofSlot application rack slot ≠ ofSlot application' rack' slot' → ∀ key,
        ¬ ((ofSlot application rack slot).Names key ∧
          (ofSlot application' rack' slot').Names key))) ∧
      Isolated tokens locks descriptor s := by
  refine ⟨fun application application' rack rack' slot slot' =>
    ⟨ofSlot_eq_iff, fun hne key hkey => hne ?_⟩, isolated_of_reaches hreach⟩
  exact hkey.1.unique (unguarding_text_ofSlot _ _ _) (unguarding_text_ofSlot _ _ _) hkey.2

/-- The descriptor of a machine for the first slot of a rack. -/
def machineAt (application rack instanceId : String) : Descriptor :=
  ⟨application, rack, 1, instanceId, "host", "10.0.0.1", "east", "zone", "0", ∅, none⟩

/-- Two machines of one application that claim the same slot of different racks. -/
def machinesApart (second : Bool) : Descriptor :=
  if second then machineAt "app" "rack2" "b" else machineAt "app" "rack1" "a"

/-- A machine that claims an identity with nobody else about leaves the other identity alone. -/
theorem isolated_after_lone_create :
    ∃ s, Reaches (sessionRules "tokens" "locks" machinesApart False) (State.initial ∅ none) s ∧
      s.contents.row? "tokens" "app_rack1_1" =
        some ((machineAt "app" "rack1" "a").stamp 7).toAttributes ∧
      s.contents.row? "tokens" "app_rack2_1" = none ∧
      (ofSlot "app" "rack1" 1 = ofSlot "app" "rack2" 1 ↔
        (1 : UInt32) = 1 ∧ "app" ++ "_" ++ "rack1" = "app" ++ "_" ++ "rack2") ∧
      Isolated "tokens" "locks" machinesApart s := by
  have hreach : Reaches (sessionRules "tokens" "locks" machinesApart False)
      (State.initial ∅ none) _ :=
    Step.call_reaches (i := false) 7 rfl (.create ⟨"tokens", ⟨"locks", .zero⟩⟩ rfl rfl none)
  obtain ⟨hkeys, hisolated⟩ := isolated_of_distinct_rowKeys hreach
  exact ⟨_, hreach, rfl, rfl, (hkeys "app" "app" "rack1" "rack2" 1 1).1, hisolated⟩

/-- Two machines that claim the same slot of racks of different applications. -/
def machinesMistaken (second : Bool) : Descriptor :=
  if second then machineAt "a" "b_c" "b" else machineAt "a_b" "c" "a"

/-- A machine claims an identity of one application, and another one fails to claim an identity of
another application because the first one holds its lock. -/
theorem heldByOther_despite_distinct_places :
    ∃ s after, Reaches (sessionRules "tokens" "locks" machinesMistaken True)
        (State.initial ∅ none) s ∧
      ((machinesMistaken false).application, (machinesMistaken false).rack) ≠
        ((machinesMistaken true).application, (machinesMistaken true).rack) ∧
      (machinesMistaken false).rowKey = (machinesMistaken true).rowKey ∧
      (Registry.create ⟨"tokens", ⟨"locks", .zero⟩⟩ (machinesMistaken true)).run
        (Scene.answer true 0) s.toScene =
          (.error (.lockFailed (.heldByOther "a_b_c_1-lock" "a")), after) :=
  ⟨_, _, Step.call_reaches (i := false) 0 rfl
    (.create ⟨"tokens", ⟨"locks", .zero⟩⟩ rfl rfl none), by decide, rfl, rfl⟩

end ClusterIdentity.Claiming
