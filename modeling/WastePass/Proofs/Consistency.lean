import Mathlib.Data.List.Forall2
import WastePass.Proofs.Blanks
import WastePass.Proofs.PostalText

/-!
# Consistency — which configurations become tables, and which fault refuses the others

    A configuration is consistent when no table lists a district twice, bounds are
    four digits in order, pass numbers are neither blank nor padded and letters are
    two.  `Draft.faults` lists everything that is wrong with a configuration in the
    order of its entries.  `build` gives tables exactly when that list is empty, and
    otherwise refuses with its head.

    The engine is `Reports`: what a check says of a list of faults.  Checks in a row
    report the faults of the first, then those of the second (`Reports.bind`), so each
    function of `Draft` has one lemma about it and none is opened twice.
-/

namespace WastePass

/-! ## Entries as they were written -/

namespace Call

/-- The entry of the range table that a call adds. -/
def rangeEntry? : Call → Option (District × List (String × String))
  | .district d bounds => some (d, bounds)
  | _ => none

/-- The entry of the pass number table that a call adds. -/
def passEntry? : Call → Option (District × String)
  | .passNumber d number => some (d, number)
  | _ => none

/-- The entry of the table of exceptions that a call adds. -/
def exceptionEntry? : Call → Option ((String × String) × List String)
  | .containerException bounds letters => some (bounds, letters)
  | _ => none

end Call

/-- The bounds of a range as texts. -/
def Range.bounds (r : Range) : String × String :=
  (r.start.text, r.stop.text)

/-- The entries of tables, in the texts they are shown as. -/
def Tables.entries (t : Tables) : Draft where
  districts := t.districts.map fun e => (e.district, e.ranges.map Range.bounds)
  passNumbers := t.passNumbers
  exceptions := t.exceptions.map fun e => (e.range.bounds, e.letters.map Letters.text)

namespace Draft

/-- The entries that calls add to each table, in the order of the calls. -/
def listed (calls : List Call) : Draft where
  districts := calls.filterMap Call.rangeEntry?
  passNumbers := calls.filterMap Call.passEntry?
  exceptions := calls.filterMap Call.exceptionEntry?

/-- The entries with capitals for the letters of exceptions. -/
def withCapitals (draft : Draft) : Draft :=
  { draft with exceptions := draft.exceptions.map fun e => (e.1, e.2.map capitals) }

end Draft

/-! ## Consistent configurations -/

/-- Bounds that are four digits each and in order. -/
def ProperBounds (bounds : String × String) : Prop :=
  FourDigits bounds.1 ∧ FourDigits bounds.2 ∧ numeral bounds.1 ≤ numeral bounds.2

/-- A text with a character that is no blank. -/
def NonBlank (text : String) : Prop :=
  ∃ c ∈ text.toList, Text.isBlank c = false

/-- A text that neither begins nor ends with a blank. -/
def Unpadded (text : String) : Prop :=
  (∀ c ∈ text.toList.head?, Text.isBlank c = false) ∧
    ∀ c ∈ text.toList.getLast?, Text.isBlank c = false

instance (text : String) : Decidable (NonBlank text) :=
  List.decidableBEx _ _

instance (text : String) : Decidable (Unpadded text) :=
  @instDecidableAnd _ _ (Option.decidableForallMem _) (Option.decidableForallMem _)

/-- A configuration that says nothing twice and nothing malformed. -/
structure Draft.Consistent (draft : Draft) : Prop where
  districts_nodup : (draft.districts.map (·.1)).Nodup
  passNumbers_nodup : (draft.passNumbers.map (·.1)).Nodup
  ranges : ∀ e ∈ draft.districts, ∀ bounds ∈ e.2, ProperBounds bounds
  passNumbers : ∀ e ∈ draft.passNumbers, NonBlank e.2 ∧ Unpadded e.2
  exceptions : ∀ e ∈ draft.exceptions, ProperBounds e.1
  letters : ∀ e ∈ draft.exceptions, ∀ text ∈ e.2, TwoLetters text

/-! ## Faults in their order -/

/-- What is wrong with a bound. -/
def boundFaults (text : String) : List TableFault :=
  if FourDigits text then [] else [.invalidBound text]

/-- What is wrong with the bounds of a range: the start, the end, their order. -/
def rangeFaults (bounds : String × String) : List TableFault :=
  boundFaults bounds.1 ++ (boundFaults bounds.2 ++
    if FourDigits bounds.1 ∧ FourDigits bounds.2 ∧ numeral bounds.2 < numeral bounds.1 then
      [.invertedRange (Fin.ofNat 10000 (numeral bounds.1)) (Fin.ofNat 10000 (numeral bounds.2))]
    else [])

/-- What is wrong with a pass number: it is blank, it is padded. -/
def passFaults (entry : District × String) : List TableFault :=
  (if NonBlank entry.2 then [] else [.emptyPassNumber entry.1]) ++
    if Unpadded entry.2 then [] else [.paddedPassNumber entry.1]

/-- What is wrong with the letters of an exception. -/
def lettersFaults (text : String) : List TableFault :=
  if TwoLetters text then [] else [.invalidLetters text]

/-- What is wrong with a table of districts, entry by entry: its district stood before,
    then what is wrong with the entry `alone`. -/
def keyedFaults {β : Type} (again : District → TableFault)
    (alone : District × β → List TableFault) :
    List District → List (District × β) → List TableFault
  | _, [] => []
  | before, e :: rest =>
      (if e.1 ∈ before then [again e.1] else []) ++
        (alone e ++ keyedFaults again alone (e.1 :: before) rest)

/-- Everything that is wrong with a configuration, table after table. -/
def Draft.faults (draft : Draft) : List TableFault :=
  keyedFaults .duplicateRanges (fun e => e.2.flatMap rangeFaults) [] draft.districts ++
    (keyedFaults .duplicatePassNumber passFaults [] draft.passNumbers ++
      draft.exceptions.flatMap fun e => rangeFaults e.1 ++ e.2.flatMap lettersFaults)

/-! ## Checks and what they report -/

/-- A check of something with the given faults: it gives a value with `P` where there is
    none, and is refused with the first of them otherwise. -/
inductive Reports {α : Type} (P : α → Prop) : Except TableFault α → List TableFault → Prop
  | passed {a : α} (h : P a) : Reports P (.ok a) []
  | refused (f : TableFault) (fs : List TableFault) : Reports P (.error f) (f :: fs)

namespace Reports

variable {α β : Type} {P : α → Prop} {Q : β → Prop} {fs gs : List TableFault}

/-- A check fails with the first fault there is. -/
theorem error_iff {x : Except TableFault α} (h : Reports P x fs) (f : TableFault) :
    x = .error f ↔ fs.head? = some f := by
  cases h with
  | passed h => exact ⟨fun hx => (nomatch hx), fun hf => (nomatch hf)⟩
  | refused g gs =>
      show Except.error g = Except.error f ↔ some g = some f
      rw [Except.error.injEq, Option.some.injEq]

/-- A check passes when there is no fault. -/
theorem exists_ok_iff {x : Except TableFault α} (h : Reports P x fs) :
    (∃ a, x = .ok a) ↔ fs = [] := by
  cases h with
  | passed h => exact ⟨fun _ => rfl, fun _ => ⟨_, rfl⟩⟩
  | refused g gs => exact ⟨fun ⟨_, hx⟩ => (nomatch hx), fun hf => (nomatch hf)⟩

/-- What a check gives is as promised. -/
theorem of_ok {a : α} (h : Reports P (.ok a) fs) : P a := by
  cases h with
  | passed h => exact h

/-- Of two checks in a row the faults of the first come first. -/
theorem bind {x : Except TableFault α} {k : α → Except TableFault β}
    (hx : Reports P x fs) (hk : ∀ a, P a → Reports Q (k a) gs) :
    Reports Q (x >>= k) (fs ++ gs) := by
  cases hx with
  | passed h => exact hk _ h
  | refused f fs => exact .refused f (fs ++ gs)

/-- A condition that refuses comes before what follows it. -/
theorem refuseIf {c : Prop} [Decidable c] {f : TableFault} {x : Except TableFault α}
    (hx : Reports P x fs) :
    Reports P (if c then .error f else x) ((if c then [f] else []) ++ fs) := by
  by_cases hc : c
  · rw [if_pos hc, if_pos hc]
    exact .refused f fs
  · rw [if_neg hc, if_neg hc]
    exact hx

/-- A check of every element reports the faults of one after the other. -/
theorem mapM {f : α → Except TableFault β} {faults : α → List TableFault}
    {R : α → β → Prop} (h : ∀ a, Reports (R a) (f a) (faults a)) (l : List α) :
    Reports (List.Forall₂ R l) (l.mapM f) (l.flatMap faults) := by
  induction l with
  | nil => exact .passed .nil
  | cons a l ih =>
      rw [List.mapM_cons, List.flatMap_cons]
      refine (h a).bind fun b hb => ?_
      rw [← List.append_nil (l.flatMap faults)]
      exact ih.bind fun bs hbs => .passed (.cons hb hbs)

end Reports

/-! ## One check after the other -/

/-- The number that four digits say has them for its text. -/
theorem PostalNumber.ofNat_numeral_text (n : PostalNumber) :
    Fin.ofNat 10000 (numeral n.text) = n := by
  rw [PostalNumber.numeral_text]
  apply Fin.ext
  show n.val % 10000 = n.val
  omega

/-- Reading a bound. -/
theorem bound_reports (text : String) :
    Reports (fun n => PostalNumber.text n = text) (Range.bound text) (boundFaults text) := by
  unfold Range.bound boundFaults
  split
  · next n hn =>
    have htext := (PostalNumber.ofChars?_toList_iff text n).mp hn
    rw [if_pos (htext ▸ PostalNumber.fourDigits_text n)]
    exact .passed htext
  · next hnone =>
    rw [if_neg]
    · exact .refused _ []
    · intro hfour
      obtain ⟨n, hn⟩ := PostalNumber.exists_text_of_fourDigits hfour
      rw [(PostalNumber.ofChars?_toList_iff text n).mpr hn] at hnone
      exact nomatch hnone

/-- Reading a range. -/
theorem ofBounds_reports (bounds : String × String) :
    Reports (fun r => Range.bounds r = bounds) (Range.ofBounds bounds.1 bounds.2)
      (rangeFaults bounds) := by
  obtain ⟨start, stop⟩ := bounds
  refine (bound_reports start).bind fun m hm => ?_
  refine (bound_reports stop).bind fun n hn => ?_
  subst hm hn
  have hfour : FourDigits m.text ∧ FourDigits n.text :=
    ⟨PostalNumber.fourDigits_text m, PostalNumber.fourDigits_text n⟩
  by_cases hmn : m ≤ n
  · rw [dif_pos hmn, if_neg]
    · exact .passed rfl
    · rintro ⟨-, -, hlt⟩
      rw [PostalNumber.numeral_text, PostalNumber.numeral_text] at hlt
      exact absurd hmn (Fin.not_le.mpr hlt)
  · -- The fault shows the numbers that were read, which are those of the texts.
    rw [dif_neg hmn, if_pos, PostalNumber.ofNat_numeral_text, PostalNumber.ofNat_numeral_text]
    · exact .refused _ []
    · refine ⟨hfour.1, hfour.2, ?_⟩
      rw [PostalNumber.numeral_text, PostalNumber.numeral_text]
      exact Fin.not_le.mp hmn

/-- Reading the letters of an exception. -/
theorem buildLetters_reports (text : String) :
    Reports (fun l => Letters.text l = capitals text) (Draft.buildLetters text)
      (lettersFaults text) := by
  unfold Draft.buildLetters lettersFaults
  split
  · next l hl =>
    rw [if_pos ((Letters.ofChars?_isSome_iff text).mp ⟨l, hl⟩)]
    exact .passed (Letters.text_of_ofChars? hl)
  · next hnone =>
    rw [if_neg]
    · exact .refused _ []
    · intro htwo
      obtain ⟨l, hl⟩ := (Letters.ofChars?_isSome_iff text).mpr htwo
      rw [hl] at hnone
      exact nomatch hnone

/-- Lists that are related by a map are related element by element. -/
theorem map_eq_of_forall₂ {α β : Type} {g : β → α} {l : List α} {bs : List β}
    (h : List.Forall₂ (fun a b => g b = a) l bs) : bs.map g = l := by
  induction h with
  | nil => rfl
  | cons hab _ ih => rw [List.map_cons, hab, ih]

/-- Checking one exception. -/
theorem buildException_reports (entry : (String × String) × List String) :
    Reports (fun e : ContainerException =>
        (e.range.bounds, e.letters.map Letters.text) = (entry.1, entry.2.map capitals))
      (Draft.buildException entry)
      (rangeFaults entry.1 ++ entry.2.flatMap lettersFaults) := by
  refine (ofBounds_reports entry.1).bind fun r hr => ?_
  rw [← List.append_nil (entry.2.flatMap lettersFaults)]
  refine (Reports.mapM buildLetters_reports entry.2).bind fun ls hls => .passed ?_
  have hletters : ls.map Letters.text = entry.2.map capitals := by
    refine map_eq_of_forall₂ ?_
    rw [List.forall₂_map_left_iff]
    exact hls
  show (r.bounds, ls.map Letters.text) = (entry.1, entry.2.map capitals)
  rw [hr, hletters]

/-- Checking the range table. -/
theorem buildDistricts_reports (entries : List (District × List (String × String))) :
    ∀ seen : List District,
      Reports (fun out : List DistrictRanges =>
          out.map (fun e => (e.district, e.ranges.map Range.bounds)) = entries)
        (Draft.buildDistricts seen entries)
        (keyedFaults .duplicateRanges (fun e => e.2.flatMap rangeFaults) seen entries) := by
  induction entries with
  | nil =>
      intro seen
      exact .passed rfl
  | cons e rest ih =>
      intro seen
      obtain ⟨d, bounds⟩ := e
      refine Reports.refuseIf ?_
      refine (Reports.mapM ofBounds_reports bounds).bind fun ranges hranges => ?_
      rw [← List.append_nil (keyedFaults _ _ _ rest)]
      refine (ih (d :: seen)).bind fun others hothers => .passed ?_
      rw [List.map_cons, hothers, map_eq_of_forall₂ hranges]

/-- A text is blank when no character of it is anything else. -/
theorem allBlank_iff (text : String) : Text.allBlank text = true ↔ ¬ NonBlank text := by
  unfold Text.allBlank NonBlank
  rw [List.all_eq_true]
  constructor
  · rintro hall ⟨c, hc, hblank⟩
    rw [hall c hc] at hblank
    exact nomatch hblank
  · intro hnone c hc
    cases hblank : Text.isBlank c with
    | true => rfl
    | false => exact absurd ⟨c, hc, hblank⟩ hnone

/-- Nothing is cut off a text exactly when no blank begins or ends it. -/
theorem trim_eq_self_iff (text : String) :
    Text.trim text.toList = text.toList ↔ Unpadded text := by
  rw [← Text.trimsTo_iff]
  simp only [Unpadded, Text.not_isBlank_iff]
  constructor
  · rintro ⟨-, hfirst, hlast⟩
    exact ⟨hfirst, hlast⟩
  · rintro ⟨hfirst, hlast⟩
    exact ⟨⟨[], [], by simp, fun c hc => nomatch hc⟩, hfirst, hlast⟩

/-- Checking the pass number table. -/
theorem buildPassNumbers_reports (entries : List (District × String)) :
    ∀ seen : List District,
      Reports (fun out => out = entries) (Draft.buildPassNumbers seen entries)
        (keyedFaults .duplicatePassNumber passFaults seen entries) := by
  induction entries with
  | nil =>
      intro seen
      exact .passed rfl
  | cons e rest ih =>
      intro seen
      obtain ⟨d, number⟩ := e
      -- The check asks whether a text is blank or padded, the list of faults whether it
      -- is not; both are brought to the same conditionals.
      have hblank : (if Text.allBlank number = true then [TableFault.emptyPassNumber d] else [])
          = if NonBlank number then [] else [.emptyPassNumber d] :=
        (if_congr (allBlank_iff number) rfl rfl).trans (ite_not _ _ _)
      have hpadded : (if Text.trim number.toList ≠ number.toList
            then [TableFault.paddedPassNumber d] else [])
          = if Unpadded number then [] else [.paddedPassNumber d] :=
        (if_congr (not_congr (trim_eq_self_iff number)) rfl rfl).trans (ite_not _ _ _)
      refine Reports.refuseIf ?_
      show Reports _ _ (((if NonBlank number then [] else [.emptyPassNumber d])
        ++ if Unpadded number then [] else [.paddedPassNumber d]) ++ _)
      rw [List.append_assoc, ← hblank, ← hpadded]
      refine Reports.refuseIf (Reports.refuseIf ?_)
      rw [← List.append_nil (keyedFaults _ _ _ rest)]
      refine (ih (d :: seen)).bind fun others hothers => .passed ?_
      rw [hothers]

/-- Checking a configuration. -/
theorem build_reports (draft : Draft) :
    Reports (fun t => Tables.entries t = draft.withCapitals) draft.build draft.faults := by
  refine (buildDistricts_reports draft.districts []).bind fun ds hds => ?_
  refine (buildPassNumbers_reports draft.passNumbers []).bind fun ps hps => ?_
  rw [← List.append_nil (draft.exceptions.flatMap _)]
  refine (Reports.mapM buildException_reports draft.exceptions).bind fun es hes => .passed ?_
  have hexceptions : es.map (fun e => (e.range.bounds, e.letters.map Letters.text))
      = draft.exceptions.map fun e => (e.1, e.2.map capitals) := by
    refine map_eq_of_forall₂ ?_
    rw [List.forall₂_map_left_iff]
    exact hes
  unfold Tables.entries Draft.withCapitals
  rw [hds, hps, hexceptions]

/-! ## No fault is left exactly where nothing is wrong -/

/-- A text has no fault as a bound when it is four digits. -/
theorem boundFaults_eq_nil_iff (text : String) : boundFaults text = [] ↔ FourDigits text := by
  unfold boundFaults
  by_cases h : FourDigits text <;> simp [h]

/-- Bounds have no fault when they are proper. -/
theorem rangeFaults_eq_nil_iff (bounds : String × String) :
    rangeFaults bounds = [] ↔ ProperBounds bounds := by
  unfold rangeFaults ProperBounds
  rw [List.append_eq_nil_iff, List.append_eq_nil_iff, boundFaults_eq_nil_iff,
    boundFaults_eq_nil_iff]
  constructor
  · rintro ⟨hstart, hstop, horder⟩
    refine ⟨hstart, hstop, ?_⟩
    by_contra hlt
    rw [if_pos ⟨hstart, hstop, Nat.lt_of_not_le hlt⟩] at horder
    exact nomatch horder
  · rintro ⟨hstart, hstop, hle⟩
    refine ⟨hstart, hstop, if_neg ?_⟩
    rintro ⟨-, -, hlt⟩
    omega

/-- A pass number has no fault when it is neither blank nor padded. -/
theorem passFaults_eq_nil_iff (entry : District × String) :
    passFaults entry = [] ↔ NonBlank entry.2 ∧ Unpadded entry.2 := by
  unfold passFaults
  by_cases hblank : NonBlank entry.2 <;> by_cases hpadded : Unpadded entry.2 <;>
    simp [hblank, hpadded]

/-- A text has no fault as letters when it is two letters. -/
theorem lettersFaults_eq_nil_iff (text : String) :
    lettersFaults text = [] ↔ TwoLetters text := by
  unfold lettersFaults
  by_cases h : TwoLetters text <;> simp [h]

/-- A table of districts has no fault when it lists none twice, none that stood before,
    and no faulty entry. -/
theorem keyedFaults_eq_nil_iff {β : Type} (again : District → TableFault)
    (alone : District × β → List TableFault) (entries : List (District × β)) :
    ∀ before : List District, keyedFaults again alone before entries = [] ↔
      (∀ e ∈ entries, e.1 ∉ before) ∧ (entries.map (·.1)).Nodup ∧
        ∀ e ∈ entries, alone e = [] := by
  induction entries with
  | nil =>
      intro before
      simp [keyedFaults]
  | cons e rest ih =>
      intro before
      rw [keyedFaults, List.append_eq_nil_iff, List.append_eq_nil_iff, ih (e.1 :: before),
        List.map_cons, List.nodup_cons, List.forall_mem_cons, List.forall_mem_cons]
      have hhead : (if e.1 ∈ before then [again e.1] else []) = [] ↔ e.1 ∉ before := by
        by_cases h : e.1 ∈ before <;> simp [h]
      -- The entry at hand joins those that stood before the rest.
      have hrest : (∀ x ∈ rest, x.1 ∉ e.1 :: before)
          ↔ e.1 ∉ rest.map (·.1) ∧ ∀ x ∈ rest, x.1 ∉ before := by
        constructor
        · intro h
          refine ⟨?_, fun x hx hmem => h x hx (List.mem_cons_of_mem _ hmem)⟩
          intro hmem
          obtain ⟨x, hx, hxe⟩ := List.mem_map.mp hmem
          exact h x hx (hxe ▸ List.mem_cons_self)
        · rintro ⟨hnot, hbefore⟩ x hx hmem
          rcases List.mem_cons.mp hmem with heq | hmem
          · exact hnot (List.mem_map.mpr ⟨x, hx, heq⟩)
          · exact hbefore x hx hmem
      rw [hhead, hrest]
      tauto

/-- A configuration has no fault when it is consistent. -/
theorem faults_eq_nil_iff (draft : Draft) : draft.faults = [] ↔ draft.Consistent := by
  unfold Draft.faults
  simp only [List.append_eq_nil_iff, keyedFaults_eq_nil_iff, List.flatMap_eq_nil_iff,
    rangeFaults_eq_nil_iff, passFaults_eq_nil_iff, lettersFaults_eq_nil_iff]
  constructor
  · rintro ⟨⟨-, hdistricts, hranges⟩, ⟨-, hnumbers, hproper⟩, hexceptions⟩
    exact ⟨hdistricts, hnumbers, hranges, hproper, fun e he => (hexceptions e he).1,
      fun e he => (hexceptions e he).2⟩
  · rintro ⟨hdistricts, hnumbers, hranges, hproper, hexceptions, hletters⟩
    refine ⟨⟨fun _ _ h => (nomatch h), hdistricts, hranges⟩,
      ⟨fun _ _ h => (nomatch h), hnumbers, hproper⟩, ?_⟩
    intro e he
    exact ⟨hexceptions e he, hletters e he⟩

/-! ## The tables of a configuration -/

/-- A range is known by the texts of its bounds. -/
theorem Range.bounds_injective : Function.Injective Range.bounds := by
  intro r s h
  have hstart : r.start = s.start := PostalNumber.text_injective (congrArg Prod.fst h)
  have hstop : r.stop = s.stop := PostalNumber.text_injective (congrArg Prod.snd h)
  cases r
  cases s
  subst hstart hstop
  rfl

/-- Tables are known by their entries. -/
theorem Tables.entries_injective : Function.Injective Tables.entries := by
  intro t u h
  obtain ⟨tds, tps, tes⟩ := t
  obtain ⟨uds, ups, ues⟩ := u
  obtain ⟨hds, hps, hes⟩ := Draft.mk.injEq .. ▸ h
  have hd : tds = uds := by
    refine List.map_injective_iff.mpr ?_ hds
    intro a b hab
    have hranges := List.map_injective_iff.mpr Range.bounds_injective (congrArg Prod.snd hab)
    cases a
    cases b
    exact congr (congrArg DistrictRanges.mk (congrArg Prod.fst hab)) hranges
  have he : tes = ues := by
    refine List.map_injective_iff.mpr ?_ hes
    intro a b hab
    have hrange := Range.bounds_injective (congrArg Prod.fst hab)
    have hletters := List.map_injective_iff.mpr (fun _ _ => Letters.text_injective)
      (congrArg Prod.snd hab)
    cases a
    cases b
    exact congr (congrArg ContainerException.mk hrange) hletters
  rw [hd, he]
  exact congrArg (Tables.mk uds · ues) hps

/-- Calls add their entries in order, whatever stands in between. -/
theorem foldl_add_eq (calls : List Call) : ∀ draft : Draft,
    calls.foldl Draft.add draft = ⟨draft.districts ++ (Draft.listed calls).districts,
      draft.passNumbers ++ (Draft.listed calls).passNumbers,
      draft.exceptions ++ (Draft.listed calls).exceptions⟩ := by
  induction calls with
  | nil =>
      intro draft
      simp [Draft.listed]
  | cons call calls ih =>
      intro draft
      rw [List.foldl_cons, ih]
      cases call <;>
        simp [Draft.add, Draft.listed, Call.rangeEntry?, Call.passEntry?, Call.exceptionEntry?,
          List.filterMap_cons]

/-- The entries of calls. -/
theorem ofCalls_eq_listed (calls : List Call) : Draft.ofCalls calls = Draft.listed calls :=
  foldl_add_eq calls {}

/-- A configuration has tables when it is consistent. -/
theorem exists_build_iff (draft : Draft) : (∃ t, draft.build = .ok t) ↔ draft.Consistent :=
  (build_reports draft).exists_ok_iff.trans (faults_eq_nil_iff draft)

/-- The tables of a configuration hold its entries. -/
theorem build_eq_ok_iff (draft : Draft) (t : Tables) :
    draft.build = .ok t ↔ draft.Consistent ∧ t.entries = draft.withCapitals := by
  have hreports := build_reports draft
  constructor
  · intro h
    rw [h] at hreports
    exact ⟨(exists_build_iff draft).mp ⟨t, h⟩, hreports.of_ok⟩
  · rintro ⟨hconsistent, hentries⟩
    -- Some tables are built, and they have these entries too.
    obtain ⟨u, hu⟩ := (exists_build_iff draft).mpr hconsistent
    rw [hu] at hreports
    have htu : t = u := Tables.entries_injective (hentries.trans hreports.of_ok.symm)
    rw [hu, htu]

/-- Tables as a configuration leaves them: no district has two entries of one kind, and pass
    numbers are neither blank nor padded.  That ranges do not start after they end and that
    letters are capitals is part of their types. -/
structure Tables.Valid (t : Tables) : Prop where
  districts_nodup : (t.districts.map (·.district)).Nodup
  passNumbers_nodup : (t.passNumbers.map (·.1)).Nodup
  passNumbers : ∀ e ∈ t.passNumbers, NonBlank e.2 ∧ Unpadded e.2

/-- What is built is valid. -/
theorem Tables.valid_of_build {draft : Draft} {t : Tables} (h : draft.build = .ok t) :
    t.Valid := by
  obtain ⟨hconsistent, hentries⟩ := (build_eq_ok_iff draft t).mp h
  have hdistricts : t.districts.map (·.district) = draft.districts.map (·.1) := by
    have := congrArg (fun d : Draft => d.districts.map (·.1)) hentries
    simpa [Tables.entries, Draft.withCapitals, Function.comp_def] using this
  have hpasses : t.passNumbers = draft.passNumbers := congrArg Draft.passNumbers hentries
  refine ⟨?_, ?_, ?_⟩
  · rw [hdistricts]
    exact hconsistent.districts_nodup
  · rw [hpasses]
    exact hconsistent.passNumbers_nodup
  · rw [hpasses]
    exact hconsistent.passNumbers

/-- The bounds of a range are proper. -/
theorem Range.bounds_proper (r : Range) : ProperBounds r.bounds := by
  refine ⟨PostalNumber.fourDigits_text r.start, PostalNumber.fourDigits_text r.stop, ?_⟩
  show numeral r.start.text ≤ numeral r.stop.text
  rw [PostalNumber.numeral_text, PostalNumber.numeral_text]
  exact r.start_le_stop

/-- Valid tables are those that their own entries build. -/
theorem Tables.valid_iff_build (t : Tables) : t.Valid ↔ t.entries.build = .ok t := by
  refine ⟨fun h => (build_eq_ok_iff _ _).mpr ⟨⟨?_, h.passNumbers_nodup, ?_, h.passNumbers, ?_, ?_⟩,
    ?_⟩, valid_of_build⟩
  · have := h.districts_nodup
    simpa [Tables.entries, Function.comp_def] using this
  · intro e he bounds hbounds
    obtain ⟨d, -, rfl⟩ := List.mem_map.mp he
    obtain ⟨r, -, rfl⟩ := List.mem_map.mp hbounds
    exact r.bounds_proper
  · intro e he
    obtain ⟨x, -, rfl⟩ := List.mem_map.mp he
    exact x.range.bounds_proper
  · intro e he text htext
    obtain ⟨x, -, rfl⟩ := List.mem_map.mp he
    obtain ⟨l, -, rfl⟩ := List.mem_map.mp htext
    exact (Letters.ofChars?_isSome_iff l.text).mp ⟨l, Letters.ofChars?_text l⟩
  · have hletters : ∀ e : ContainerException,
        (e.letters.map Letters.text).map capitals = e.letters.map Letters.text := by
      intro e
      rw [List.map_map]
      exact List.map_congr_left fun l _ => Letters.capitals_text l
    simp [Tables.entries, Draft.withCapitals, Function.comp_def, hletters]

/-- **Consistent calls become tables, all others are refused with their first fault.**
    The tables hold every entry in its order, bounds and pass numbers as given and
    letters as capitals. -/
theorem ofCalls_tables_or_first_fault (calls : List Call) :
    ((∃ t, Tables.ofCalls calls = .ok t) ↔ (Draft.listed calls).Consistent) ∧
    (∀ t, Tables.ofCalls calls = .ok t ↔
      (Draft.listed calls).Consistent ∧ t.entries = (Draft.listed calls).withCapitals) ∧
    (∀ f, Tables.ofCalls calls = .error f ↔ (Draft.listed calls).faults.head? = some f) := by
  unfold Tables.ofCalls
  rw [ofCalls_eq_listed]
  refine ⟨exists_build_iff _, build_eq_ok_iff _, ?_⟩
  intro f
  exact (build_reports _).error_iff f

end WastePass
