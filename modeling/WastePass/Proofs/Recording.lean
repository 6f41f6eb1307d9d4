import WastePass.Proofs.LookupLog
import WastePass.Proofs.PostalCodes

/-!
# Recording — a lookup that was made can be made again

    A record keeps what is left of the two texts between the white space around them.
    A postal code is read without any of its white space, so neither cutting it off nor
    adding more of it changes what the code is (`lookUp_of_compact`).  A house number is
    read with its white space, but only what is left between it is ever handed on, and
    when nothing is left there is none that could be wrong.
-/

namespace WastePass

namespace Text

/-- White space has been put in, anywhere. -/
inductive Spaced : List Char → List Char → Prop where
  | nil : Spaced [] []
  | keep (c : Char) {cs ds : List Char} (h : Spaced cs ds) : Spaced (c :: cs) (c :: ds)
  | space {c : Char} (hc : c.toNat ∈ whiteSpace) {cs ds : List Char} (h : Spaced cs ds) :
      Spaced cs (c :: ds)

/-- White space has been put around the characters. -/
def Padded (cs ds : List Char) : Prop :=
  ∃ ws vs, ds = ws ++ (cs ++ vs) ∧ ∀ c ∈ ws ++ vs, c.toNat ∈ whiteSpace

theorem Spaced.filter_eq {cs ds : List Char} (h : Spaced cs ds) :
    (ds.filter fun c => c.toNat ∉ whiteSpace) = cs.filter fun c => c.toNat ∉ whiteSpace := by
  induction h with
  | nil => rfl
  | keep c _ ih => rw [List.filter_cons, List.filter_cons, ih]
  | space hc _ ih => rw [List.filter_cons_of_neg (by simpa using hc), ih]

theorem filter_white {ws : List Char} (h : ∀ c ∈ ws, c.toNat ∈ whiteSpace) :
    (ws.filter fun c => c.toNat ∉ whiteSpace) = [] := by
  rw [List.filter_eq_nil_iff]
  intro c hc
  simpa using h c hc

/-- Cutting the white space off takes nothing that is not left out anyway. -/
theorem compact_trimmed (text : String) : compact (trimmed text) = compact text := by
  obtain ⟨ws, vs, htext, hblank⟩ := (trimsTo_trim text.toList).around
  have hws := filter_white fun c hc => hblank c (List.mem_append_left vs hc)
  have hvs := filter_white fun c hc => hblank c (List.mem_append_right ws hc)
  unfold compact
  rw [toList_trimmed]
  conv_rhs => rw [htext]
  rw [List.filter_append, List.filter_append, hws, hvs, List.append_nil, List.nil_append]

/-- White space that is put around a text is cut off with what stood there before. -/
theorem Padded.trim_eq {cs ds : List Char} (h : Padded cs ds) : trim ds = trim cs := by
  obtain ⟨ws, vs, rfl, hblank⟩ := h
  obtain ⟨⟨ws', vs', hcs, hblank'⟩, hfirst, hlast⟩ := trimsTo_trim cs
  rw [← trimsTo_iff]
  refine ⟨⟨ws ++ ws', vs' ++ vs, ?_, ?_⟩, hfirst, hlast⟩
  · conv_lhs => rw [hcs]
    simp only [List.append_assoc]
  · intro c hc
    simp only [List.mem_append] at hc hblank hblank'
    rcases hc with (hc | hc) | hc | hc
    · exact hblank c (Or.inl hc)
    · exact hblank' c (Or.inl hc)
    · exact hblank' c (Or.inr hc)
    · exact hblank c (Or.inr hc)

end Text

namespace Tables

/-- Two texts that are the same without their white space are looked up alike. -/
theorem lookUp_of_compact (t : Tables) {text other : String}
    (h : Text.compact text = Text.compact other) (houseNumber : Option String) :
    t.lookUp text houseNumber = t.lookUp other houseNumber := by
  have hkey : PostalCode.key text = PostalCode.key other := by
    rw [PostalCode.key, h, PostalCode.key]
  rw [lookUp, Request.parse, PostalCode.parse_eq_of_key hkey, lookUp, Request.parse]

theorem lookUp_none_ne (t : Tables) (postalCode : String) :
    t.lookUp postalCode none ≠ .error (.invalid .houseNumber) := by
  intro h
  rw [lookUp_eq_invalid_iff] at h
  cases hcode : PostalCode.parse postalCode with
  | ok code =>
      rw [Request.parse, hcode] at h
      cases h
  | error reason =>
      have hfield := PostalCode.field_of_parse hcode
      have hreason := (Request.parse_of_code_error hcode none).symm.trans h
      rw [Except.error.inj hreason] at hfield
      exact absurd hfield (by decide)

end Tables

namespace Session

theorem givenHouseNumber_eq_none_iff (s : Session) :
    s.givenHouseNumber = none ↔ Text.White s.houseNumber := by
  rw [givenHouseNumber_eq, givenNumber, ← Text.allBlank_iff_white]
  split
  · next hblank => exact iff_of_true rfl hblank
  · next hgiven => exact iff_of_false nofun hgiven

theorem trimsTo_givenHouseNumber {s : Session} {number : String}
    (h : number ∈ s.givenHouseNumber) : Text.TrimsTo s.houseNumber.toList number.toList := by
  rw [givenHouseNumber_eq, givenNumber] at h
  split at h
  · exact nomatch h
  · rw [← Option.some.inj h, Text.toList_trimmed]
    exact Text.trimsTo_trim _

theorem givenNumber_of_trimmed {text other : String}
    (h : Text.trimmed text = Text.trimmed other) : givenNumber text = givenNumber other := by
  have hblank : Text.allBlank text = Text.allBlank other := by
    rw [Bool.eq_iff_iff, Text.allBlank_iff_white, Text.allBlank_iff_white,
      ← Text.trimmed_eq_empty_iff, ← Text.trimmed_eq_empty_iff, h]
  rw [givenNumber, hblank, h, givenNumber]

theorem postalCode_lookupRecord (s : Session) (time : ClockTime) :
    (s.lookupRecord time).postalCode = Text.trimmed s.postalCode := by
  rw [lookupRecord]

theorem houseNumber_lookupRecord (s : Session) (time : ClockTime) :
    (s.lookupRecord time).houseNumber = s.givenHouseNumber := by
  rw [lookupRecord]

theorem outcome_lookupRecord (s : Session) (time : ClockTime) :
    (s.lookupRecord time).outcome
      = s.tables.lookUp (Text.trimmed s.postalCode) s.givenHouseNumber := by
  rw [lookupRecord]

/-- Texts with more white space are looked up alike. -/
theorem outcome_of_spaced {s s' : Session} (htables : s'.tables = s.tables)
    (hcode : Text.Spaced s.postalCode.toList s'.postalCode.toList)
    (hnumber : Text.Padded s.houseNumber.toList s'.houseNumber.toList) (time time' : ClockTime) :
    (s'.lookupRecord time').outcome = (s.lookupRecord time).outcome := by
  have hgiven : s'.givenHouseNumber = s.givenHouseNumber := by
    rw [givenHouseNumber_eq, givenHouseNumber_eq]
    refine givenNumber_of_trimmed ?_
    rw [Text.trimmed, hnumber.trim_eq, Text.trimmed]
  have hcompact : Text.compact (Text.trimmed s'.postalCode)
      = Text.compact (Text.trimmed s.postalCode) := by
    rw [Text.compact_trimmed, Text.compact_trimmed]
    exact hcode.filter_eq
  rw [outcome_lookupRecord, outcome_lookupRecord, htables, hgiven,
    Tables.lookUp_of_compact _ hcompact]

/-- What is recorded of a lookup, and how it can be made again: with the texts that are kept,
    as they were typed, or with more white space. -/
structure Reproduces (s : Session) (time : ClockTime) (r : LookupRecord) : Prop where
  newest : (s.recordLookup time).lastLookup = some r
  history : (s.recordLookup time).history = (r :: s.history).take s.historyLimit
  postalCode : Text.TrimsTo s.postalCode.toList r.postalCode.toList
  houseNumber : ∀ number ∈ r.houseNumber, Text.TrimsTo s.houseNumber.toList number.toList
  absent : r.houseNumber = none ↔ Text.White s.houseNumber
  again : s.tables.lookUp r.postalCode r.houseNumber = r.outcome
  asTyped : s.tables.lookUp s.postalCode r.houseNumber = r.outcome
  spaced : ∀ (s' : Session) (time' : ClockTime), s'.tables = s.tables → 1 ≤ s'.historyLimit →
    Text.Spaced s.postalCode.toList s'.postalCode.toList →
    Text.Padded s.houseNumber.toList s'.houseNumber.toList →
      ((s'.recordLookup time').lastLookup.map LookupRecord.outcome) = some r.outcome
  blankNumber : Text.White s.houseNumber → r.outcome ≠ .error (.invalid .houseNumber)
  screen : (s.recordLookup time).screen = s.screen
  focus : (s.recordLookup time).focus = s.focus
  texts : (s.recordLookup time).postalCode = s.postalCode ∧
    (s.recordLookup time).houseNumber = s.houseNumber
  selected : (s.recordLookup time).selected = s.selected

theorem history_recordLookup (s : Session) (time : ClockTime) :
    (s.recordLookup time).history = (s.lookupRecord time :: s.history).take s.historyLimit := by
  rw [recordLookup]

theorem lastLookup_recordLookup {s : Session} (h : 1 ≤ s.historyLimit) (time : ClockTime) :
    (s.recordLookup time).lastLookup = some (s.lookupRecord time) := by
  rw [lastLookup, history_recordLookup, List.head?_take, if_neg (Nat.ne_of_gt h), List.head?_cons]

/-- **A recorded lookup can be made again**, and white space has no say in its outcome. -/
theorem recorded_lookup_reproduces {s : Session} (h : 1 ≤ s.historyLimit) (time : ClockTime) :
    ∃ r, Reproduces s time r := by
  refine ⟨s.lookupRecord time,
    { newest := lastLookup_recordLookup h time, history := s.history_recordLookup time,
      postalCode := ?_, houseNumber := ?_, absent := ?_, again := ?_, asTyped := ?_,
      spaced := ?_, blankNumber := ?_, screen := rfl, focus := rfl, texts := ⟨rfl, rfl⟩,
      selected := rfl }⟩
  · rw [postalCode_lookupRecord, Text.toList_trimmed]
    exact Text.trimsTo_trim _
  · rw [houseNumber_lookupRecord]
    intro number
    exact trimsTo_givenHouseNumber
  · rw [houseNumber_lookupRecord]
    exact s.givenHouseNumber_eq_none_iff
  · rw [postalCode_lookupRecord, houseNumber_lookupRecord, outcome_lookupRecord]
  · rw [houseNumber_lookupRecord, outcome_lookupRecord]
    exact s.tables.lookUp_of_compact (Text.compact_trimmed s.postalCode).symm s.givenHouseNumber
  · intro s' time' htables hlimit hcode hnumber
    rw [lastLookup_recordLookup hlimit, Option.map_some,
      outcome_of_spaced htables hcode hnumber time time']
  · intro hwhite
    rw [outcome_lookupRecord, s.givenHouseNumber_eq_none_iff.mpr hwhite]
    exact s.tables.lookUp_none_ne _

/-- A tab is no house number, and the code is read through the space inside it. -/
theorem recorded_lookup_reproduces_of_tab :
    let s : Session :=
      { start ⟨[⟨.oost, [⟨1000, 1099, by decide⟩]⟩], [(.oost, "7")], []⟩ 1 with
        postalCode := " 10 50ab", houseNumber := "\t" }
    1 ≤ s.historyLimit ∧
      Reproduces s ⟨9, 8, 7⟩ ⟨⟨9, 8, 7⟩, "10 50ab", none, .ok ⟨.oost, "7", true⟩⟩ := by
  intro s
  have hlimit : 1 ≤ s.historyLimit := Nat.le_refl 1
  obtain ⟨r, hr⟩ := recorded_lookup_reproduces hlimit ⟨9, 8, 7⟩
  have hnewest : (s.recordLookup ⟨9, 8, 7⟩).lastLookup
      = some ⟨⟨9, 8, 7⟩, "10 50ab", none, .ok ⟨.oost, "7", true⟩⟩ := by decide
  rw [hr.newest, Option.some.injEq] at hnewest
  exact ⟨hlimit, hnewest ▸ hr⟩

end Session

end WastePass
