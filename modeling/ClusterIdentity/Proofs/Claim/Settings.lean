import ClusterIdentity.Claim.Settings
import ClusterIdentity.Proofs.Json.Fields

/-!
# Settings as JSON

Settings that are written and read again keep their tables, but the delay before a lock is verified
is cut: to whole milliseconds, and to the low 64 bits of their number. What was read once is not
changed by being written and read again.

## Main definitions

* `Duration.totalNanos`: a duration as one number

## Main statements

* `Duration.totalNanos_cut`, `Duration.cut_eq_iff`: what is left of a duration, and when it is all
* `Tables.ofJson?_of_gives`, `Settings.ofJson?_of_gives`: which fields may be left out, and what
  they are then
* `Settings.kept_but_for_delay`
-/

namespace ClusterIdentity

open Json (Gives)

namespace Duration

/-- The length in nanoseconds. -/
def totalNanos (d : Duration) : Nat := d.seconds.toNat * 1000000000 + d.nanos

theorem totalNanos_inj {d e : Duration} (h : d.totalNanos = e.totalNanos) : d = e := by
  obtain ⟨s, n, hn⟩ := d
  obtain ⟨t, m, hm⟩ := e
  simp only [totalNanos] at h
  obtain rfl : s = t := UInt64.toNat_inj.mp (by omega)
  obtain rfl : n = m := by omega
  rfl

theorem millis_eq (d : Duration) : d.millis = d.totalNanos / 1000000 := by
  simp only [millis, totalNanos]
  omega

theorem totalNanos_ofMillis (ms : UInt64) : (ofMillis ms).totalNanos = ms.toNat * 1000000 := by
  simp only [totalNanos, ofMillis, UInt64.toNat_div, UInt64.reduceToNat]
  omega

/-- The low 64 bits of the whole milliseconds are what is written of a duration. -/
theorem totalNanos_cut (d : Duration) :
    (ofMillis d.wordMillis).totalNanos = d.totalNanos / 1000000 % UInt64.size * 1000000 := by
  rw [totalNanos_ofMillis, wordMillis, UInt64.toNat_ofNat', millis_eq]

/-- Nothing is lost of a whole number of milliseconds that fits 64 bits, and only of that. -/
theorem cut_eq_iff {d : Duration} :
    ofMillis d.wordMillis = d ↔ 1000000 ∣ d.totalNanos ∧ d.totalNanos / 1000000 < UInt64.size := by
  constructor
  · intro h
    have hcut := totalNanos_cut d
    rw [h, UInt64.size] at hcut
    rw [UInt64.size]
    omega
  · rintro ⟨hwhole, hfits⟩
    apply totalNanos_inj
    rw [totalNanos_cut, Nat.mod_eq_of_lt hfits]
    omega

end Duration

/-! ### Fields that are left out -/

/-- Both names of tables may be left out. -/
theorem Tables.ofJson?_of_gives {tokens? locks? : Option String} {j : Json}
    (h : Gives [("tokens", tokens?.map .string), ("locks", locks?.map .string)] j) :
    Tables.ofJson? j = some ⟨tokens?.getD "tokens", locks?.getD "locks"⟩ := by
  have htokens := h.field?_eq (by simp) (i := 0) rfl
  have hlocks := h.field?_eq (by simp) (i := 1) rfl
  have hfields : Tables.ofJson? j = Tables.ofFields? j.field? :=
    h.read_eq (fun _ => rfl) fun _ hlength => if_pos hlength
  rw [hfields, Tables.ofFields?, htokens, hlocks]
  cases tokens? <;> cases locks? <;> rfl

/-- The tables and the delay may be left out. -/
theorem Settings.ofJson?_of_gives {tables? : Option Json} {millis? : Option UInt64}
    {tables : Tables} {j : Json}
    (h : Gives [("tables", tables?), ("settle_delay", millis?.map fun ms => .ofNat ms.toNat)] j)
    (htables : optionalField Tables.ofJson? Tables.default tables? = some tables) :
    Settings.ofJson? j =
      some ⟨tables, (millis?.map Duration.ofMillis).getD (Duration.ofMillis 100)⟩ := by
  have htables' := h.field?_eq (by simp) (i := 0) rfl
  have hdelay := h.field?_eq (by simp) (i := 1) rfl
  have hfields : Settings.ofJson? j = Settings.ofFields? j.field? :=
    h.read_eq (fun _ => rfl) fun _ hlength => if_pos hlength
  have hmillis : optionalField (fun j => j.uint64?.map Duration.ofMillis)
      Settings.default.settleDelay (millis?.map fun ms => .ofNat ms.toNat) =
        some ((millis?.map Duration.ofMillis).getD (Duration.ofMillis 100)) := by
    cases millis? with
    | none => rfl
    | some ms => simp [optionalField, Json.uint64?_ofNat]
  rw [hfields, Settings.ofFields?, htables', htables, hdelay, hmillis]
  rfl

namespace Settings

/-! ### Written settings -/

theorem ofJson?_toJson (s : Settings) :
    ofJson? s.toJson = some { s with settleDelay := .ofMillis s.settleDelay.wordMillis } := by
  obtain ⟨⟨tokens, locks⟩, delay⟩ := s
  have hnames : Gives [("tokens", (some tokens).map .string), ("locks", (some locks).map .string)]
      (Tables.toJson ⟨tokens, locks⟩) := .object [] (by simp) (.refl _)
  have hmembers : Gives [("tables", some (Tables.toJson ⟨tokens, locks⟩)),
      ("settle_delay", (some delay.wordMillis).map fun ms => .ofNat ms.toNat)]
      (Settings.toJson ⟨⟨tokens, locks⟩, delay⟩) := .object [] (by simp) (.refl _)
  exact ofJson?_of_gives hmembers (Tables.ofJson?_of_gives hnames)

/-- Settings that were read were read from fields. -/
theorem ofFields?_of_ofJson? {j : Json} {s : Settings} (h : ofJson? j = some s) :
    ofFields? j.field? = some s := by
  cases j with
  | object members => exact h
  | array values =>
    rw [ofJson?] at h
    split at h
    · exact h
    · cases h
  | _ => cases h

/-- A delay that was read is a whole number of milliseconds. -/
theorem delay_of_ofJson? {j : Json} {s : Settings} (h : ofJson? j = some s) :
    ∃ ms, s.settleDelay = .ofMillis ms := by
  have hread := ofFields?_of_ofJson? h
  simp only [ofFields?, Option.bind_eq_bind, Option.bind_eq_some_iff, Option.pure_def,
    Option.some.injEq] at hread
  obtain ⟨_, -, delay, hdelay, rfl⟩ := hread
  cases hgiven : j.field? "settle_delay" 1 with
  | none =>
    rw [hgiven] at hdelay
    exact ⟨100, (Option.some.inj hdelay).symm⟩
  | some given =>
    rw [hgiven] at hdelay
    obtain ⟨ms, -, rfl⟩ := Option.map_eq_some_iff.mp hdelay
    exact ⟨ms, rfl⟩

/-- What was read reads the same after it was written. -/
theorem ofJson?_toJson_of_ofJson? {j : Json} {s : Settings} (h : ofJson? j = some s) :
    ofJson? s.toJson = some s := by
  obtain ⟨tables, delay⟩ := s
  obtain ⟨ms, rfl⟩ : ∃ ms, delay = .ofMillis ms := delay_of_ofJson? h
  rw [ofJson?_toJson, Duration.wordMillis_ofMillis]

/-- **Settings are kept but for the delay.** Settings that are written and read again have the same
tables, and of the delay the whole milliseconds, of whose number only the low 64 bits are left. So
they are the same settings exactly if the delay is a whole number of milliseconds that fits 64 bits;
they are written the same again; and settings that were read are not changed at all, whatever they
were read from. They may be read from an object with any of the fields, in any order and beside
others, and from an array that ends early; so may their tables. What is left out has its
default. -/
theorem kept_but_for_delay :
    (∀ s : Settings, ∃ read : Settings, ofJson? s.toJson = some read ∧ read.tables = s.tables ∧
      read.settleDelay.totalNanos = s.settleDelay.totalNanos / 1000000 % UInt64.size * 1000000) ∧
    (∀ s : Settings, ofJson? s.toJson = some s ↔
      1000000 ∣ s.settleDelay.totalNanos ∧ s.settleDelay.totalNanos / 1000000 < UInt64.size) ∧
    (∀ s : Settings, (ofJson? s.toJson).map toJson = some s.toJson) ∧
    (∀ (j : Json) (s : Settings), ofJson? j = some s → ofJson? s.toJson = some s) ∧
    (∀ (tables? : Option Json) (millis? : Option UInt64) (tables : Tables) (j : Json),
      Gives [("tables", tables?), ("settle_delay", millis?.map fun ms => .ofNat ms.toNat)] j →
      optionalField Tables.ofJson? Tables.default tables? = some tables →
      ofJson? j = some ⟨tables, (millis?.map Duration.ofMillis).getD (Duration.ofMillis 100)⟩) ∧
    (∀ (tokens? locks? : Option String) (j : Json),
      Gives [("tokens", tokens?.map .string), ("locks", locks?.map .string)] j →
      Tables.ofJson? j = some ⟨tokens?.getD "tokens", locks?.getD "locks"⟩) := by
  refine ⟨fun s => ⟨_, ofJson?_toJson s, rfl, s.settleDelay.totalNanos_cut⟩, fun s => ?_,
    fun s => ?_, fun _ _ => ofJson?_toJson_of_ofJson?, fun _ _ _ _ => ofJson?_of_gives,
    fun _ _ _ => Tables.ofJson?_of_gives⟩
  · rw [ofJson?_toJson, Option.some.injEq, ← Duration.cut_eq_iff]
    obtain ⟨tables, delay⟩ := s
    simp
  · rw [ofJson?_toJson, Option.map_some, toJson, toJson, Duration.wordMillis_ofMillis]

/-- An object whose tables are an array with one of the two names, beside a member of another
name. -/
theorem kept_from_partial_object :
    Gives [("tokens", some (.string "claims")), ("locks", none)] (.array [.string "claims"]) ∧
      Gives [("tables", some (.array [.string "claims"])), ("settle_delay", none)]
        (.object [("region", .null), ("tables", .array [.string "claims"])]) ∧
      ofJson? (.object [("region", .null), ("tables", .array [.string "claims"])]) =
        some ⟨⟨"claims", "locks"⟩, .ofMillis 100⟩ ∧
      ofJson? (Settings.toJson ⟨⟨"claims", "locks"⟩, .ofMillis 100⟩) =
        some ⟨⟨"claims", "locks"⟩, .ofMillis 100⟩ := by
  have hnames : Gives [("tokens", some (.string "claims")), ("locks", none)]
      (.array [.string "claims"]) := .array 1 rfl
  have hmembers : Gives [("tables", some (.array [.string "claims"])), ("settle_delay", none)]
      (.object [("region", .null), ("tables", .array [.string "claims"])]) :=
    .object [("region", .null)] (by decide) (.swap _ _ _)
  have htables := kept_but_for_delay.2.2.2.2.2 (some "claims") none _ hnames
  have hread := kept_but_for_delay.2.2.2.2.1 _ none _ _ hmembers htables
  exact ⟨hnames, hmembers, hread, kept_but_for_delay.2.2.2.1 _ _ hread⟩

end Settings

end ClusterIdentity
