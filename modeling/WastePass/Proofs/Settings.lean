import Mathlib.Algebra.Group.Nat.Defs
import WastePass.Proofs.PostalCodes
import WastePass.Proofs.Starting

/-!
# Settings — which environments are accepted, and what they give

    A text says a number when it is the digits of that number, with a plus sign in front
    of them if one likes; how many digits there are does not matter.  Reading stops at
    the first digit with which the number would no longer fit, and no digit after it
    brings the number back (`le_value`), so `whole` gives the number that is said exactly
    when it fits.  Only the length of the history can be refused, and `environment_settles`
    says for which texts it is and with which of the two reports.
-/

namespace WastePass

/-! ## Numerals -/

namespace Decimal

/-- The number that digits give behind those that gave `n`. -/
def value (n : Nat) (cs : List Char) : Nat :=
  cs.foldl (fun n c => 10 * n + (c.toNat - 48)) n

/-- One ASCII digit or more, which write the number in base ten. -/
structure Digits (cs : List Char) (n : Nat) : Prop where
  ne_nil : cs ≠ []
  digit : ∀ c ∈ cs, AsciiDigit c
  numeral : numeral (String.ofList cs) = n

/-- The characters say a number: its digits, and perhaps a plus sign in front of them. -/
def Says (cs : List Char) (n : Nat) : Prop :=
  Digits cs n ∨ ∃ digits, cs = '+' :: digits ∧ Digits digits n

theorem le_value (n : Nat) (cs : List Char) : n ≤ value n cs := by
  induction cs generalizing n with
  | nil => exact Nat.le_refl n
  | cons c cs ih =>
      have hnext : n ≤ 10 * n + (c.toNat - 48) := by omega
      exact hnext.trans (ih _)

theorem wholeFrom_eq_ok_iff (cs : List Char) : ∀ n < wholeBound, ∀ m,
    wholeFrom n cs = .ok m ↔ (∀ c ∈ cs, AsciiDigit c) ∧ value n cs = m ∧ m < wholeBound := by
  induction cs with
  | nil =>
      intro n hn m
      rw [wholeFrom, Except.ok.injEq]
      constructor
      · rintro rfl
        exact ⟨fun c hc => (nomatch hc), rfl, hn⟩
      · rintro ⟨-, hvalue, -⟩
        exact hvalue
  | cons c cs ih =>
      intro n hn m
      have hvalue : value n (c :: cs) = value (10 * n + (c.toNat - 48)) cs := rfl
      rw [wholeFrom, List.forall_mem_cons, hvalue]
      by_cases hdigit : AsciiDigit c
      · rw [(isDigit_iff c).mpr hdigit]
        by_cases hnext : 10 * n + (c.toNat - 48) < wholeBound
        · simp [hnext, hdigit, ih _ hnext m]
        · -- What no longer fits does not fit with more digits behind it either.
          have hleast := le_value (10 * n + (c.toNat - 48)) cs
          simp only [Bool.not_true, Bool.false_eq_true, if_false, hnext, reduceCtorEq, false_iff]
          omega
      · have hnot : c.isDigit = false := by
          rw [← Bool.not_eq_true, isDigit_iff]
          exact hdigit
        simp [hnot, hdigit]

theorem wholeFrom_zero_eq_ok_iff {cs : List Char} (hne : cs ≠ []) (n : Nat) :
    wholeFrom 0 cs = .ok n ↔ Digits cs n ∧ n < wholeBound := by
  have hzero : 0 < wholeBound := by decide
  have hnumeral : numeral (String.ofList cs) = value 0 cs := by
    rw [numeral, String.toList_ofList, value]
  rw [wholeFrom_eq_ok_iff cs 0 hzero]
  constructor
  · rintro ⟨hdigit, hvalue, hfits⟩
    exact ⟨⟨hne, hdigit, hnumeral.trans hvalue⟩, hfits⟩
  · rintro ⟨hdigits, hfits⟩
    exact ⟨hdigits.digit, hnumeral.symm.trans hdigits.numeral, hfits⟩

/-- Behind a plus sign stand the digits, as it is none itself. -/
theorem says_plus_iff (cs : List Char) (n : Nat) : Says ('+' :: cs) n ↔ Digits cs n := by
  constructor
  · rintro (hdigits | ⟨digits, hcs, hdigits⟩)
    · exact absurd (hdigits.digit '+' List.mem_cons_self) (by decide)
    · rwa [List.tail_eq_of_cons_eq hcs]
  · intro hdigits
    exact Or.inr ⟨cs, rfl, hdigits⟩

theorem says_iff_of_no_plus {cs : List Char} (hplus : ∀ rest, cs ≠ '+' :: rest) (n : Nat) :
    Says cs n ↔ Digits cs n := by
  constructor
  · rintro (hdigits | ⟨digits, hcs, -⟩)
    · exact hdigits
    · exact absurd hcs (hplus digits)
  · exact Or.inl

/-- **A whole number is read exactly when it is said and fits.** -/
theorem whole_eq_ok_iff (cs : List Char) (n : Nat) :
    whole cs = .ok n ↔ Says cs n ∧ n < wholeBound := by
  have hnil : ∀ n, ¬ Digits [] n := fun n h => h.ne_nil rfl
  unfold whole
  split
  · rw [says_iff_of_no_plus (by simp)]
    simp [hnil]
  · rw [says_plus_iff]
    simp [hnil]
  · next cs hne =>
    rw [says_plus_iff, wholeFrom_zero_eq_ok_iff hne]
  · next hempty _ hplus =>
    rw [says_iff_of_no_plus hplus, wholeFrom_zero_eq_ok_iff hempty]

/-- A text says one number at most. -/
theorem Says.unique {cs : List Char} {n m : Nat} (hn : Says cs n) (hm : Says cs m) : n = m := by
  rcases hn with hn | ⟨digits, rfl, hn⟩
  · rcases hm with hm | ⟨digits, rfl, hm⟩
    · exact hn.numeral.symm.trans hm.numeral
    · exact absurd (hn.digit '+' List.mem_cons_self) (by decide)
  · rw [says_plus_iff] at hm
    exact hn.numeral.symm.trans hm.numeral

end Decimal

namespace Config

/-! ## What names say -/

/-- A name has no value, or one of white space only. -/
def Unset (env : Environment) (name : String) : Prop :=
  ∀ text, env.get? name = some text → Text.White text

/-- A name has a value that is not only white space. -/
def Given (env : Environment) (name text : String) : Prop :=
  env.get? name = some text ∧ ¬ Text.White text

theorem setting_eq_none_iff_unset (env : Environment) (name : String) :
    setting env name = none ↔ Unset env name := by
  simp only [setting_eq_none_iff, Text.allBlank_iff_white, Unset]

theorem setting_eq_some_iff_given (env : Environment) (name text : String) :
    setting env name = some text ↔ Given env name text := by
  rw [setting_eq_some_iff, Text.not_allBlank_iff, Given]

/-- Without the white space around it, the text says the number. -/
def Means (text : String) (n : Nat) : Prop :=
  ∃ core, Text.TrimsTo text.toList core ∧ Decimal.Says core n

theorem means_iff (text : String) (n : Nat) :
    Means text n ↔ Decimal.Says (Text.trim text.toList) n := by
  constructor
  · rintro ⟨core, hcore, hn⟩
    rwa [(Text.trimsTo_iff _ _).mp hcore]
  · intro hn
    exact ⟨_, Text.trimsTo_trim _, hn⟩

theorem Means.unique {text : String} {n m : Nat} (hn : Means text n) (hm : Means text m) :
    n = m := by
  rw [means_iff] at hn hm
  exact hn.unique hm

theorem Given.not_unset {env : Environment} {name text : String} (h : Given env name text) :
    ¬ Unset env name :=
  fun hunset => h.2 (hunset text h.1)

theorem Given.unique {env : Environment} {name text other : String} (h : Given env name text)
    (h' : Given env name other) : text = other :=
  Option.some.inj (h.1.symm.trans h'.1)

theorem unset_or_given (env : Environment) (name : String) :
    Unset env name ∨ ∃ text, Given env name text := by
  cases hsetting : setting env name with
  | none => exact Or.inl ((setting_eq_none_iff_unset env name).mp hsetting)
  | some text => exact Or.inr ⟨text, (setting_eq_some_iff_given env name text).mp hsetting⟩

/-! ## The length of the history -/

theorem historyOf_of_means {text : String} {n : Nat} (hmeans : Means text n)
    (hfits : n < 2 ^ 64) :
    historyOf (some text) = if 1 ≤ n ∧ n ≤ 1000 then .ok n else .error (.outOfBounds n) := by
  rw [means_iff] at hmeans
  rw [historyOf, (Decimal.whole_eq_ok_iff _ n).mpr ⟨hmeans, hfits⟩]
  rfl

theorem historyOf_of_large {text : String} (hlarge : ∀ n, Means text n → 2 ^ 64 ≤ n) :
    ∃ fault, historyOf (some text) = .error (.notNumber text fault) := by
  cases hwhole : Decimal.whole (Text.trim text.toList) with
  | ok n =>
      obtain ⟨hsaid, hfits⟩ := (Decimal.whole_eq_ok_iff _ n).mp hwhole
      exact absurd hfits (Nat.not_lt.mpr (hlarge n ((means_iff text n).mpr hsaid)))
  | error fault =>
      refine ⟨fault, ?_⟩
      rw [historyOf, hwhole]
      rfl

variable {env : Environment}

/-- The settings of an environment with a length of the history. -/
def withLength (env : Environment) (n : Nat) : Config :=
  ⟨Startup.selected env, Startup.logFile? env, Startup.filterText env, n⟩

theorem ofEnvironment_of_unset (h : Unset env "AFVALPAS_HISTORY") :
    ofEnvironment env = .ok (withLength env 20) := by
  rw [Startup.ofEnvironment_eq, (setting_eq_none_iff_unset _ _).mpr h]
  rfl

/-- A number that is said and fits is accepted within the bounds, and refused outside them. -/
theorem ofEnvironment_of_means {text : String} {n : Nat}
    (hgiven : Given env "AFVALPAS_HISTORY" text) (hmeans : Means text n) (hfits : n < 2 ^ 64) :
    ofEnvironment env =
      if 1 ≤ n ∧ n ≤ 1000 then .ok (withLength env n) else .error (.outOfBounds n) := by
  rw [Startup.ofEnvironment_eq, (setting_eq_some_iff_given _ _ _).mpr hgiven,
    historyOf_of_means hmeans hfits]
  split <;> rfl

/-- A text that says no number, or too large a one, is refused. -/
theorem ofEnvironment_of_large {text : String} (hgiven : Given env "AFVALPAS_HISTORY" text)
    (hlarge : ∀ n, Means text n → 2 ^ 64 ≤ n) :
    ∃ fault, ofEnvironment env = .error (.notNumber text fault) := by
  obtain ⟨fault, h⟩ := historyOf_of_large hlarge
  refine ⟨fault, ?_⟩
  rw [Startup.ofEnvironment_eq, (setting_eq_some_iff_given _ _ _).mpr hgiven, h]
  rfl

/-- No length is said, or one that fits, or else the text is no number that fits. -/
theorem length_cases (env : Environment) :
    Unset env "AFVALPAS_HISTORY" ∨
      ∃ text, Given env "AFVALPAS_HISTORY" text ∧
        ((∃ n, Means text n ∧ n < 2 ^ 64) ∨ ∀ n, Means text n → 2 ^ 64 ≤ n) := by
  rcases unset_or_given env "AFVALPAS_HISTORY" with hunset | ⟨text, hgiven⟩
  · exact Or.inl hunset
  · refine Or.inr ⟨text, hgiven, ?_⟩
    by_cases hsaid : ∃ n, Means text n ∧ n < 2 ^ 64
    · exact Or.inl hsaid
    · exact Or.inr fun n hn => Nat.not_lt.mp fun hfits => hsaid ⟨n, hn, hfits⟩

theorem exists_ok_iff (env : Environment) :
    (∃ config, ofEnvironment env = .ok config) ↔
      Unset env "AFVALPAS_HISTORY" ∨
        ∃ text n, Given env "AFVALPAS_HISTORY" text ∧ Means text n ∧ 1 ≤ n ∧ n ≤ 1000 := by
  constructor
  · rintro ⟨config, h⟩
    rcases length_cases env with hunset | ⟨text, hgiven, ⟨n, hmeans, hfits⟩ | hlarge⟩
    · exact Or.inl hunset
    · rw [ofEnvironment_of_means hgiven hmeans hfits] at h
      split at h
      · next hbounds => exact Or.inr ⟨text, n, hgiven, hmeans, hbounds⟩
      · exact nomatch h
    · obtain ⟨fault, hfault⟩ := ofEnvironment_of_large hgiven hlarge
      exact nomatch hfault.symm.trans h
  · rintro (hunset | ⟨text, n, hgiven, hmeans, hbounds⟩)
    · exact ⟨_, ofEnvironment_of_unset hunset⟩
    · refine ⟨withLength env n, ?_⟩
      rw [ofEnvironment_of_means hgiven hmeans (by omega), if_pos hbounds]

theorem historyLimit_of_ok {config : Config} (h : ofEnvironment env = .ok config) :
    (1 ≤ config.historyLimit ∧ config.historyLimit ≤ 1000) ∧
      (Unset env "AFVALPAS_HISTORY" → config.historyLimit = 20) ∧
        ∀ text n, Given env "AFVALPAS_HISTORY" text → Means text n →
          config.historyLimit = n := by
  rcases length_cases env with hunset | ⟨text, hgiven, ⟨n, hmeans, hfits⟩ | hlarge⟩
  · rw [ofEnvironment_of_unset hunset] at h
    cases h
    refine ⟨show 1 ≤ 20 ∧ 20 ≤ 1000 by decide, fun _ => rfl, ?_⟩
    intro text n hgiven
    exact absurd hunset hgiven.not_unset
  · rw [ofEnvironment_of_means hgiven hmeans hfits] at h
    split at h
    · next hbounds =>
      cases h
      refine ⟨hbounds, fun hunset => absurd hunset hgiven.not_unset, ?_⟩
      intro text' n' hgiven' hmeans'
      rw [← hgiven.unique hgiven'] at hmeans'
      exact hmeans.unique hmeans'
    · exact nomatch h
  · obtain ⟨fault, hfault⟩ := ofEnvironment_of_large hgiven hlarge
    exact nomatch hfault.symm.trans h

theorem map_historyLimit (env : Environment) :
    (ofEnvironment env).map (·.historyLimit) = historyOf (setting env "AFVALPAS_HISTORY") := by
  rw [Startup.ofEnvironment_eq]
  cases historyOf (setting env "AFVALPAS_HISTORY") <;> rfl

/-! ## The other names -/

/-- The location begins with the name of a protocol of the web. -/
def Address (location : String) : Prop :=
  "http://".toList <+: location.toList ∨ "https://".toList <+: location.toList

theorem isAddress_iff (location : String) : isAddress location = true ↔ Address location := by
  simp only [isAddress, Address, Bool.or_eq_true, List.isPrefixOf_iff_prefix]

theorem sourceOf_eq_remote_iff (location : String) :
    sourceOf (some location) = .remote location ↔ Address location := by
  rw [← isAddress_iff]
  cases h : isAddress location <;> simp [sourceOf, h]

theorem sourceOf_eq_file_iff (location : String) :
    sourceOf (some location) = .file location ↔ ¬ Address location := by
  rw [← isAddress_iff]
  cases h : isAddress location <;> simp [sourceOf, h]

theorem sourceOf_setting (env : Environment) :
    (Unset env "AFVALPAS_TABLES" → Startup.selected env = .embedded) ∧
      ∀ location, Given env "AFVALPAS_TABLES" location →
        (Startup.selected env = .remote location ↔ Address location) ∧
          (Startup.selected env = .file location ↔ ¬ Address location) := by
  unfold Startup.selected
  constructor
  · intro hunset
    rw [(setting_eq_none_iff_unset _ _).mpr hunset]
    rfl
  · intro location hgiven
    rw [(setting_eq_some_iff_given _ _ _).mpr hgiven]
    exact ⟨sourceOf_eq_remote_iff location, sourceOf_eq_file_iff location⟩

theorem filterText_eq (env : Environment) :
    (Unset env "RUST_LOG" → Startup.filterText env = "info") ∧
      ∀ text, Given env "RUST_LOG" text → Startup.filterText env = text := by
  simp only [← setting_eq_none_iff_unset, ← setting_eq_some_iff_given, Startup.filterText]
  constructor
  · intro hunset
    rw [hunset, Option.getD_none]
  · intro text hgiven
    rw [hgiven, Option.getD_some]

theorem setting_eq_of_alike {env env' : Environment} {name : String}
    (h : env'.get? name = env.get? name ∨ (Unset env' name ∧ Unset env name)) :
    setting env' name = setting env name := by
  rcases h with hsame | ⟨hunset', hunset⟩
  · rw [setting, hsame, setting]
  · rw [(setting_eq_none_iff_unset env' name).mpr hunset',
      (setting_eq_none_iff_unset env name).mpr hunset]

/-- What an environment gives, told by what its names say.  A good length is none at all,
    which is twenty, or one within the bounds; white space is as good as no value. -/
structure Settles (env : Environment) : Prop where
  accepted : (∃ config, ofEnvironment env = .ok config) ↔
    Unset env "AFVALPAS_HISTORY" ∨
      ∃ text n, Given env "AFVALPAS_HISTORY" text ∧ Means text n ∧ 1 ≤ n ∧ n ≤ 1000
  limit : ∀ config, ofEnvironment env = .ok config →
    (1 ≤ config.historyLimit ∧ config.historyLimit ≤ 1000) ∧
      (Unset env "AFVALPAS_HISTORY" → config.historyLimit = 20) ∧
        ∀ text n, Given env "AFVALPAS_HISTORY" text → Means text n → config.historyLimit = n
  notNumber : ∀ text, Given env "AFVALPAS_HISTORY" text → (∀ n, Means text n → 2 ^ 64 ≤ n) →
    ∃ e, ofEnvironment env = .error e ∧
      e.chain.head? = some ("AFVALPAS_HISTORY must be a number, got '" ++ text ++ "'")
  outOfBounds : ∀ text n, Given env "AFVALPAS_HISTORY" text → Means text n →
    (n = 0 ∨ (1001 ≤ n ∧ n ≤ 2 ^ 64 - 1)) →
      ∃ e, ofEnvironment env = .error e ∧
        e.chain.head? = some ("AFVALPAS_HISTORY must be between 1 and 1000, got " ++ toString n)
  onlyLength : ∀ env', env'.get? "AFVALPAS_HISTORY" = env.get? "AFVALPAS_HISTORY" →
    (ofEnvironment env').map (·.historyLimit) = (ofEnvironment env).map (·.historyLimit)
  blank : ∀ env', (∀ name, env'.get? name = env.get? name ∨ (Unset env' name ∧ Unset env name)) →
    ofEnvironment env' = ofEnvironment env
  source : ∀ config, ofEnvironment env = .ok config →
    (Unset env "AFVALPAS_TABLES" → config.source = .embedded) ∧
      ∀ location, Given env "AFVALPAS_TABLES" location →
        (config.source = .remote location ↔ Address location) ∧
          (config.source = .file location ↔ ¬ Address location)
  log : ∀ config, ofEnvironment env = .ok config →
    ((Unset env "AFVALPAS_LOG_FILE" → config.logFile = none) ∧
      ∀ path, Given env "AFVALPAS_LOG_FILE" path → config.logFile = some path) ∧
    ((Unset env "RUST_LOG" → config.logFilter = "info") ∧
      ∀ text, Given env "RUST_LOG" text → config.logFilter = text)

/-- **Exactly the environments with a good length are accepted**, and each gives what its
    names say. -/
theorem environment_settles (env : Environment) : Settles env := by
  refine
    { accepted := exists_ok_iff env, limit := fun config => historyLimit_of_ok,
      notNumber := ?_, outOfBounds := ?_, onlyLength := ?_, blank := ?_, source := ?_, log := ?_ }
  · intro text hgiven hlarge
    obtain ⟨fault, h⟩ := ofEnvironment_of_large hgiven hlarge
    exact ⟨_, h, rfl⟩
  · intro text n hgiven hmeans hout
    refine ⟨.outOfBounds n, ?_, rfl⟩
    rw [ofEnvironment_of_means hgiven hmeans (by omega), if_neg (by omega)]
  · intro env' hsame
    rw [map_historyLimit, map_historyLimit, setting_eq_of_alike (Or.inl hsame)]
  · intro env' halike
    simp only [ofEnvironment, fun name => setting_eq_of_alike (halike name)]
  · intro config h
    obtain ⟨limit, rfl⟩ := Startup.exists_limit h
    exact sourceOf_setting env
  · intro config h
    obtain ⟨limit, rfl⟩ := Startup.exists_limit h
    have hpath := setting_eq_some_iff_given env "AFVALPAS_LOG_FILE"
    have hnone := setting_eq_none_iff_unset env "AFVALPAS_LOG_FILE"
    exact ⟨⟨hnone.mpr, fun path => (hpath path).mpr⟩, filterText_eq env⟩

/-- Zeros in front do not count, and the border between the two reports is the first number
    that does not fit. -/
example :
    historyOf (some "\u2003+0001000\n") = .ok 1000 ∧
      historyOf (some "18446744073709551615") = .error (.outOfBounds 18446744073709551615) ∧
      historyOf (some "18446744073709551616")
        = .error (.notNumber "18446744073709551616" .tooLarge) := by
  decide

end Config

end WastePass
