import Mathlib.Data.List.Forall2
import WastePass.Proofs.Blanks
import WastePass.Proofs.Passes
import WastePass.Proofs.PostalText

/-!
# District names — every spelling of a name, and nothing else

    A text names a district when what is left of it between the blanks is the name up to
    the case of ASCII letters, with hyphens for underscores.  Two names are never alike
    up to case, so at most one district is named and any order of looking finds it.
-/

namespace WastePass

theorem forall₂_imp_of_mem {α β : Type} {R S : α → β → Prop} {as : List α} {bs : List β}
    (h : ∀ a ∈ as, ∀ b, R a b → S a b) (hR : List.Forall₂ R as bs) : List.Forall₂ S as bs := by
  have hmem := (List.forall₂_and_left as bs).mpr ⟨fun _ ha => ha, hR⟩
  exact hmem.imp fun a b hab => h a hab.1 b hab.2

/-! ## Case -/

/-- An ASCII capital and its small letter. -/
def CapitalOf (capital small : Char) : Prop :=
  'A' ≤ capital ∧ capital ≤ 'Z' ∧ small.toNat = capital.toNat + 32

/-- Two characters that are the same up to ASCII case. -/
def SameLetter (a b : Char) : Prop :=
  a = b ∨ CapitalOf a b ∨ CapitalOf b a

theorem capitalOf_iff (a b : Char) :
    CapitalOf a b ↔ 65 ≤ a.toNat ∧ a.toNat ≤ 90 ∧ b.toNat = a.toNat + 32 := by
  simp only [CapitalOf, char_le_iff_toNat]
  exact Iff.rfl

theorem toNat_toLower (c : Char) :
    c.toLower.toNat = if 65 ≤ c.toNat ∧ c.toNat ≤ 90 then c.toNat + 32 else c.toNat := by
  revert c
  apply forall_char_of_ascii
  · decide
  · intro c hc
    rw [toLower_of_not_ascii hc, if_neg (by omega)]

theorem toLower_eq_iff (a b : Char) : a.toLower = b.toLower ↔ SameLetter a b := by
  rw [← Char.toNat_inj, toNat_toLower, toNat_toLower, SameLetter, capitalOf_iff, capitalOf_iff,
    ← Char.toNat_inj]
  split_ifs <;> omega

theorem sameUpToCase_iff_forall₂ (as bs : List Char) :
    District.sameUpToCase as bs = true ↔ List.Forall₂ SameLetter as bs := by
  rw [District.sameUpToCase, beq_iff_eq, ← List.forall₂_eq_eq_eq, List.forall₂_map_left_iff,
    List.forall₂_map_right_iff]
  simp only [toLower_eq_iff]

namespace District

/-! ## What a text names -/

/-- A hyphen for an underscore. -/
def hyphen (c : Char) : Char :=
  if c = '_' then '-' else c

/-- Without the white space around it, and with hyphens for underscores, the text is the
    name of the district up to ASCII case. -/
def Names (text : String) (d : District) : Prop :=
  ∃ core, Text.TrimsTo text.toList core ∧
    List.Forall₂ SameLetter d.name.toList (core.map hyphen)

theorem names_iff (text : String) (d : District) :
    Names text d ↔ sameUpToCase d.name.toList (normalised text) = true := by
  rw [sameUpToCase_iff_forall₂]
  constructor
  · rintro ⟨core, hcore, hname⟩
    rw [Text.trimsTo_iff] at hcore
    rw [normalised, hcore]
    exact hname
  · intro hname
    exact ⟨_, Text.trimsTo_trim text.toList, hname⟩

/-- No two districts have names that are alike up to case. -/
theorem eq_of_sameUpToCase {d e : District}
    (h : sameUpToCase d.name.toList e.name.toList = true) : d = e := by
  have hall : ∀ d ∈ all, ∀ e ∈ all,
      sameUpToCase d.name.toList e.name.toList = true → d = e := by decide
  exact hall d (mem_all d) e (mem_all e) h

theorem Names.unique {text : String} {d e : District} (hd : Names text d) (he : Names text e) :
    d = e := by
  rw [names_iff, sameUpToCase, beq_iff_eq] at hd he
  refine eq_of_sameUpToCase ?_
  rw [sameUpToCase, beq_iff_eq, hd, he]

/-- Whatever the order in which all districts are looked through, the one that is named is
    found. -/
theorem find?_name_iff {order : List District} (horder : ∀ d, d ∈ order) (text : String)
    (d : District) :
    (order.find? fun d => sameUpToCase d.name.toList (normalised text)) = some d ↔
      Names text d := by
  constructor
  · intro hfind
    have hd := List.find?_some hfind
    exact (names_iff text d).mpr hd
  · intro hd
    cases hfind : order.find? fun d => sameUpToCase d.name.toList (normalised text) with
    | none =>
        have hnone := List.find?_eq_none.mp hfind d (horder d)
        exact absurd ((names_iff text d).mp hd) hnone
    | some e =>
        have he := List.find?_some hfind
        rw [((names_iff text e).mpr he).unique hd]

theorem ofName?_eq_some_iff (text : String) (d : District) :
    ofName? text = some d ↔ Names text d :=
  find?_name_iff mem_all text d

theorem fromText_eq (text : String) :
    (FromText.fromText text : Except UnknownDistrict District) =
      match ofName? text with
      | some d => .ok d
      | none   => .error ⟨text⟩ := by
  cases h : ofName? text <;> simp only [FromText.fromText, h]

theorem fromText_eq_ok_iff (text : String) (d : District) :
    (FromText.fromText text : Except UnknownDistrict District) = .ok d ↔ Names text d := by
  rw [← ofName?_eq_some_iff, fromText_eq]
  cases ofName? text with
  | none => exact ⟨fun h => (nomatch h), fun h => (nomatch h)⟩
  | some e => rw [Except.ok.injEq, Option.some.injEq]

theorem fromText_eq_error_iff (text : String) (e : UnknownDistrict) :
    (FromText.fromText text : Except UnknownDistrict District) = .error e ↔
      e = ⟨text⟩ ∧ ∀ d, ¬ Names text d := by
  simp only [← ofName?_eq_some_iff, fromText_eq]
  cases ofName? text with
  | none => simp [eq_comm]
  | some d => simp

/-! ## Spellings -/

/-- A character of a name in another case, or an underscore for its hyphen. -/
def Variant (n c : Char) : Prop :=
  SameLetter n c ∨ (n = '-' ∧ c = '_')

/-- A spelling of a name: other cases, underscores for hyphens, and white space around it. -/
def Spells (d : District) (text : String) : Prop :=
  ∃ ws body vs, text.toList = ws ++ (body ++ vs) ∧
    (∀ c ∈ ws ++ vs, c.toNat ∈ Text.whiteSpace) ∧ List.Forall₂ Variant d.name.toList body

theorem sameLetter_hyphen_iff {n : Char} (hn : n ≠ '_') (c : Char) :
    SameLetter n (hyphen c) ↔ Variant n c := by
  rw [Variant, hyphen]
  split
  · next hc =>
    -- Neither the hyphen nor the underscore has another case.
    have hhyphen : n = '-' ↔ n.toNat = 45 := (Char.toNat_inj (d := '-')).symm
    have hunderscore : n = '_' ↔ n.toNat = 95 := (Char.toNat_inj (d := '_')).symm
    have h45 : ('-' : Char).toNat = 45 := rfl
    have h95 : ('_' : Char).toNat = 95 := rfl
    subst hc
    simp only [SameLetter, capitalOf_iff, ne_eq, hhyphen, hunderscore, h45, h95, and_true]
      at hn ⊢
    omega
  · next hc =>
    simp only [hc, and_false, or_false]

theorem name_plain (d : District) :
    ∀ n ∈ d.name.toList, n ≠ '_' ∧ n.toNat ∉ Text.whiteSpace := by
  have hall : d.name.toList.all (fun n => n != '_' && !Text.isBlank n) = true := by
    cases d <;> rfl
  intro n hn
  have h := List.all_eq_true.mp hall n hn
  rwa [Bool.and_eq_true, bne_iff_ne, Bool.not_eq_true', Text.not_isBlank_iff] at h

/-- White space is no variant of a character of a name. -/
theorem Variant.not_whiteSpace {n c : Char} (h : Variant n c) (hn : n.toNat ∉ Text.whiteSpace) :
    c.toNat ∉ Text.whiteSpace := by
  simp only [Variant, SameLetter, capitalOf_iff] at h
  rcases h with (rfl | hsmall | hcapital) | ⟨-, rfl⟩
  · exact hn
  · simp only [Text.whiteSpace, List.mem_cons, List.not_mem_nil, or_false]
    omega
  · simp only [Text.whiteSpace, List.mem_cons, List.not_mem_nil, or_false]
    omega
  · decide

theorem forall₂_variant_iff (d : District) (body : List Char) :
    List.Forall₂ SameLetter d.name.toList (body.map hyphen) ↔
      List.Forall₂ Variant d.name.toList body := by
  rw [List.forall₂_map_right_iff]
  constructor
  · refine forall₂_imp_of_mem ?_
    intro n hn c
    exact (sameLetter_hyphen_iff (name_plain d n hn).1 c).mp
  · refine forall₂_imp_of_mem ?_
    intro n hn c
    exact (sameLetter_hyphen_iff (name_plain d n hn).1 c).mpr

/-- A spelling has no white space of its own. -/
theorem not_whiteSpace_of_variant {d : District} {body : List Char}
    (h : List.Forall₂ Variant d.name.toList body) : ∀ c ∈ body, c.toNat ∉ Text.whiteSpace := by
  have hboth : List.Forall₂ (fun n c => c.toNat ∉ Text.whiteSpace ∧ Variant n c)
      d.name.toList body := by
    refine forall₂_imp_of_mem ?_ h
    intro n hn c hc
    exact ⟨hc.not_whiteSpace (name_plain d n hn).2, hc⟩
  exact ((List.forall₂_and_left body d.name.toList).mp hboth.flip).1

/-- A text names a district when it is a spelling of its name. -/
theorem spells_iff (d : District) (text : String) : Spells d text ↔ Names text d := by
  constructor
  · rintro ⟨ws, body, vs, htext, hblank, hbody⟩
    have hsolid := not_whiteSpace_of_variant hbody
    exact ⟨body, ⟨⟨ws, vs, htext, hblank⟩, fun c hc => hsolid c (List.mem_of_mem_head? hc),
      fun c hc => hsolid c (List.mem_of_mem_getLast? hc)⟩, (forall₂_variant_iff d body).mpr hbody⟩
  · rintro ⟨core, hcore, hname⟩
    obtain ⟨ws, vs, htext, hblank⟩ := hcore.around
    exact ⟨ws, core, vs, htext, hblank, (forall₂_variant_iff d core).mp hname⟩

/-- A name is a spelling of itself. -/
theorem spells_name (d : District) : Spells d d.name := by
  refine ⟨[], d.name.toList, [], by simp, fun c hc => (nomatch hc), ?_⟩
  rw [List.forall₂_same]
  intro c _
  exact Or.inl (Or.inl rfl)

/-- How a text is read as the name of a district.  It names one at most, in whatever order
    they are tried, and what is accepted in a document is read alike. -/
structure NameRead (text : String) : Prop where
  named : ∀ d, (FromText.fromText text : Except UnknownDistrict District) = .ok d ↔ Names text d
  unique : ∀ d e, Names text d → Names text e → d = e
  order : ∀ order : List District, (∀ d, d ∈ order) →
    (order.find? fun d => sameUpToCase d.name.toList (normalised text)) = ofName? text
  refused : ∀ e, (FromText.fromText text : Except UnknownDistrict District) = .error e ↔
    e = ⟨text⟩ ∧ ∀ d, ¬ Names text d
  spelled : ∀ d, Spells d text ↔
    (FromText.fromText text : Except UnknownDistrict District) = .ok d
  decoded : ∀ json d, Json.Alone (Json.TextSpelling text) json →
    Json.readDistrict.run json = .ok d →
    (FromText.fromText text : Except UnknownDistrict District) = .ok d

/-- **The name of a district is recognised in every spelling**, and in nothing else. -/
theorem name_recognised (text : String) : NameRead text := by
  refine
    { named := fromText_eq_ok_iff text, unique := fun d e => Names.unique, order := ?_,
      refused := fromText_eq_error_iff text, spelled := ?_, decoded := ?_ }
  · intro order horder
    refine Option.ext fun d => ?_
    rw [find?_name_iff horder, ofName?_eq_some_iff]
  · intro d
    rw [spells_iff, fromText_eq_ok_iff]
  · intro json d halone hread
    -- What documents call the district is its name, and that is one of the spellings.
    rw [Json.run_readDistrict_iff halone, documentName_eq] at hread
    rw [fromText_eq_ok_iff, ← spells_iff, hread]
    exact spells_name d

/-- The long s is the letter in another case only beyond ASCII. -/
example : (FromText.fromText "Weeſp" : Except UnknownDistrict District) = .error ⟨"Weeſp"⟩ := by
  decide

end District

end WastePass
