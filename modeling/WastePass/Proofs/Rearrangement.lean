import Mathlib.Data.List.Find
import Mathlib.Data.List.Nodup
import Mathlib.Data.List.Pairwise
import WastePass.Proofs.Reference

/-!
# Rearrangement — only entries that overlap depend on their order

    The first entry around a number decides, so the order of a table matters to the
    numbers that two of its entries share, and to no other.  `Draft.Rearranged` says
    which changes of a configuration are free.  None of them makes a consistent
    configuration inconsistent, and none changes what the tables find (`Draft.Alike`).
-/

namespace WastePass

/-- Two lists of the same letters: neither their order, nor how often a text stands there,
    nor the case of the texts counts. -/
structure SameLetters (texts others : List String) : Prop where
  forth : ∀ a ∈ texts, ∃ b ∈ others, District.sameUpToCase a.toList b.toList = true
  back : ∀ b ∈ others, ∃ a ∈ texts, District.sameUpToCase a.toList b.toList = true

namespace Draft

/-- No number lies in the ranges of two different districts. -/
def DistrictsApart (draft : Draft) : Prop :=
  ∀ n, ∀ e ∈ draft.districts, ∀ f ∈ draft.districts,
    e.2.any (Reference.within n) = true → f.2.any (Reference.within n) = true → e.1 = f.1

/-- No number lies in the ranges of two exceptions. -/
def ExceptionsApart (draft : Draft) : Prop :=
  draft.exceptions.Pairwise fun e f =>
    ∀ n, ¬ (Reference.within n e.1 = true ∧ Reference.within n f.1 = true)

/-- Configurations that differ by any combination of the changes below.  Each is made to one
    table, so calls of different tables may stand in any order to each other.  Districts and
    exceptions change places only where no two of them share a number. -/
inductive Rearranged : Draft → Draft → Prop
  | refl (draft : Draft) : Rearranged draft draft
  | trans {a b c : Draft} : Rearranged a b → Rearranged b c → Rearranged a c
  | passNumbers {draft : Draft} {entries : List (District × String)}
      (h : draft.passNumbers.Perm entries) :
      Rearranged draft { draft with passNumbers := entries }
  | ranges {draft : Draft} {before after : List (District × List (String × String))}
      {d : District} {bounds others : List (String × String)}
      (hat : draft.districts = before ++ (d, bounds) :: after) (h : bounds.Perm others) :
      Rearranged draft { draft with districts := before ++ (d, others) :: after }
  | letters {draft : Draft} {before after : List ((String × String) × List String)}
      {bounds : String × String} {texts others : List String}
      (hat : draft.exceptions = before ++ (bounds, texts) :: after)
      (h : SameLetters texts others) :
      Rearranged draft { draft with exceptions := before ++ (bounds, others) :: after }
  | districts {draft : Draft} {entries : List (District × List (String × String))}
      (h : draft.districts.Perm entries) (hapart : draft.DistrictsApart) :
      Rearranged draft { draft with districts := entries }
  | exceptions {draft : Draft} {entries : List ((String × String) × List String)}
      (h : draft.exceptions.Perm entries) (hapart : draft.ExceptionsApart) :
      Rearranged draft { draft with exceptions := entries }

end Draft

/-! ## One entry in the place of another -/

/-- What holds of all entries holds of all when one gives way to another that has it. -/
theorem forall_mem_replace {α : Type} {P : α → Prop} {before after : List α} {x y : α}
    (h : ∀ e ∈ before ++ x :: after, P e) (hxy : P x → P y) :
    ∀ e ∈ before ++ y :: after, P e := by
  intro e he
  rcases List.mem_append.mp he with he | he
  · exact h e (List.mem_append_left _ he)
  · rcases List.mem_cons.mp he with rfl | he
    · exact hxy (h x (List.mem_append_right _ List.mem_cons_self))
    · exact h e (List.mem_append_right _ (List.mem_cons_of_mem _ he))

/-- What is found stays when an entry gives way to one that is tested and told alike. -/
theorem find?_map_replace {α β : Type} {p : α → Bool} {f : α → β} {x y : α}
    (hp : p x = p y) (hf : f x = f y) (before after : List α) :
    ((before ++ x :: after).find? p).map f = ((before ++ y :: after).find? p).map f := by
  rw [List.find?_append, List.find?_append]
  cases before.find? p with
  | some e => rfl
  | none =>
      rw [Option.none_or, Option.none_or, List.find?_cons, List.find?_cons, hp]
      cases p y with
      | true => exact congrArg some hf
      | false => rfl

/-! ## Letters -/

/-- A character is a letter when its capital is a capital letter. -/
theorem letter_iff_toUpper (c : Char) :
    (('A' ≤ c ∧ c ≤ 'Z') ∨ ('a' ≤ c ∧ c ≤ 'z')) ↔ ('A' ≤ c.toUpper ∧ c.toUpper ≤ 'Z') := by
  revert c
  apply forall_char_of_ascii
  · decide
  · intro c hc
    rw [toUpper_of_not_ascii hc]
    simp only [char_le_iff_toNat]
    show (65 ≤ c.toNat ∧ c.toNat ≤ 90) ∨ (97 ≤ c.toNat ∧ c.toNat ≤ 122) ↔
      65 ≤ c.toNat ∧ c.toNat ≤ 90
    omega

/-- Two letters are two letters in any case. -/
theorem TwoLetters.of_sameUpToCase {a b : String}
    (h : District.sameUpToCase a.toList b.toList = true) (ha : TwoLetters a) : TwoLetters b := by
  rw [sameUpToCase_iff] at h
  obtain ⟨hlength, hletters⟩ := ha
  constructor
  · rw [← hlength, ← List.length_map (f := Char.toUpper), ← h, List.length_map]
  · intro c hc
    have hupper : c.toUpper ∈ a.toList.map Char.toUpper := by
      rw [h]
      exact List.mem_map_of_mem hc
    obtain ⟨c', hc', hsame⟩ := List.mem_map.mp hupper
    rw [letter_iff_toUpper, ← hsame, ← letter_iff_toUpper]
    exact hletters c' hc'

theorem SameLetters.isEmpty_eq {texts others : List String} (h : SameLetters texts others) :
    texts.isEmpty = others.isEmpty := by
  cases texts with
  | nil =>
      cases others with
      | nil => rfl
      | cons b others =>
          obtain ⟨a, ha, -⟩ := h.back b List.mem_cons_self
          exact nomatch ha
  | cons a texts =>
      obtain ⟨b, hb, -⟩ := h.forth a List.mem_cons_self
      cases others with
      | nil => exact nomatch hb
      | cons b others => rfl

theorem SameLetters.any_eq {texts others : List String} (h : SameLetters texts others)
    (letters : List Char) :
    (texts.any fun text => District.sameUpToCase text.toList letters)
      = others.any fun text => District.sameUpToCase text.toList letters := by
  rw [Bool.eq_iff_iff, List.any_eq_true, List.any_eq_true]
  constructor
  · rintro ⟨a, ha, hmatch⟩
    obtain ⟨b, hb, hsame⟩ := h.forth a ha
    rw [sameUpToCase_iff] at hmatch hsame
    exact ⟨b, hb, (sameUpToCase_iff _ _).mpr (hsame.symm.trans hmatch)⟩
  · rintro ⟨b, hb, hmatch⟩
    obtain ⟨a, ha, hsame⟩ := h.back b hb
    rw [sameUpToCase_iff] at hmatch hsame
    exact ⟨a, ha, (sameUpToCase_iff _ _).mpr (hsame.trans hmatch)⟩

namespace Draft

/-! ## What a configuration finds -/

/-- The district of a number. -/
def districtAt (draft : Draft) (n : Nat) : Option District :=
  (draft.districts.find? fun e => e.2.any (Reference.within n)).map (·.1)

/-- The pass number of a district. -/
def passNumberOf (draft : Draft) (d : District) : Option String :=
  (draft.passNumbers.find? fun e => e.1 = d).map (·.2)

/-- There is a container for letters among those excluded. -/
def spares (texts : List String) (letters : String) : Bool :=
  !texts.isEmpty && !texts.any fun text => District.sameUpToCase text.toList letters.toList

/-- There is a container for a number and letters. -/
def hasContainerAt (draft : Draft) (n : Nat) (letters : String) : Bool :=
  ((draft.exceptions.find? fun e => Reference.within n e.1).map (spares ·.2 letters)).getD true

/-- Two configurations that find the same. -/
structure Alike (a b : Draft) : Prop where
  district : ∀ n, a.districtAt n = b.districtAt n
  passNumber : ∀ d, a.passNumberOf d = b.passNumberOf d
  hasContainer : ∀ n letters, a.hasContainerAt n letters = b.hasContainerAt n letters

/-- A container is found as the calls say. -/
theorem hasContainerAt_listed (calls : List Call) (n : Nat) (letters : String) :
    (listed calls).hasContainerAt n letters = Reference.hasContainer calls n letters := by
  have hexcluded : Reference.excluded calls n
      = ((listed calls).exceptions.find? fun e => Reference.within n e.1).map (·.2) :=
    Reference.excluded_eq calls n
  rw [Reference.hasContainer, hexcluded, hasContainerAt]
  cases (listed calls).exceptions.find? fun e => Reference.within n e.1 <;> rfl

/-- Calls that find the same give the same answers. -/
theorem Alike.lookUp_eq {a b : List Call} (h : Alike (listed a) (listed b))
    (postalCode : String) (houseNumber : Option String) :
    Reference.lookUp a postalCode houseNumber = Reference.lookUp b postalCode houseNumber := by
  have hdistrict : ∀ n, Reference.district a n = Reference.district b n := by
    intro n
    rw [Reference.district_eq, Reference.district_eq]
    exact h.district n
  have hpassNumber : ∀ d, Reference.passNumber a d = Reference.passNumber b d := by
    intro d
    rw [Reference.passNumber_eq, Reference.passNumber_eq]
    exact h.passNumber d
  have hresolve : ∀ code, Reference.resolve a code = Reference.resolve b code := by
    intro code
    simp only [Reference.resolve, hdistrict, hpassNumber, ← hasContainerAt_listed, h.hasContainer]
  simp only [Reference.lookUp, hresolve]

/-! ## What a change leaves as it is -/

namespace Rearranged

/-- A free change keeps a configuration consistent. -/
theorem consistent {a b : Draft} (h : Rearranged a b) : a.Consistent → b.Consistent := by
  induction h with
  | refl => exact id
  | trans _ _ ihab ihbc => exact ihbc ∘ ihab
  | passNumbers h =>
      intro ha
      exact { ha with
        passNumbers_nodup := (h.map _).nodup_iff.mp ha.passNumbers_nodup
        passNumbers := fun e he => ha.passNumbers e (h.mem_iff.mpr he) }
  | ranges hat h =>
      intro ha
      have hnodup := ha.districts_nodup
      have hranges := ha.ranges
      rw [hat] at hnodup hranges
      refine { ha with districts_nodup := ?_, ranges := ?_ }
      · rw [List.map_append, List.map_cons] at hnodup ⊢
        exact hnodup
      · exact forall_mem_replace hranges fun hbounds x hx => hbounds x (h.mem_iff.mpr hx)
  | letters hat h =>
      intro ha
      have hbounds := ha.exceptions
      have hletters := ha.letters
      rw [hat] at hbounds hletters
      refine { ha with exceptions := ?_, letters := ?_ }
      · exact forall_mem_replace hbounds id
      · refine forall_mem_replace hletters fun htexts b hb => ?_
        obtain ⟨a, ha, hsame⟩ := h.back b hb
        exact (htexts a ha).of_sameUpToCase hsame
  | districts h =>
      intro ha
      exact { ha with
        districts_nodup := (h.map _).nodup_iff.mp ha.districts_nodup
        ranges := fun e he => ha.ranges e (h.mem_iff.mpr he) }
  | exceptions h =>
      intro ha
      exact { ha with
        exceptions := fun e he => ha.exceptions e (h.mem_iff.mpr he)
        letters := fun e he => ha.letters e (h.mem_iff.mpr he) }

/-- A free change of a consistent configuration changes nothing that is found. -/
theorem alike {a b : Draft} (h : Rearranged a b) : a.Consistent → Alike a b := by
  induction h with
  | refl => exact fun _ => ⟨fun _ => rfl, fun _ => rfl, fun _ _ => rfl⟩
  | trans hab _ ihab ihbc =>
      intro ha
      have hfirst := ihab ha
      have hsecond := ihbc (hab.consistent ha)
      exact ⟨fun n => (hfirst.district n).trans (hsecond.district n),
        fun d => (hfirst.passNumber d).trans (hsecond.passNumber d),
        fun n l => (hfirst.hasContainer n l).trans (hsecond.hasContainer n l)⟩
  | passNumbers h =>
      intro ha
      refine ⟨fun _ => rfl, fun d => ?_, fun _ _ => rfl⟩
      refine congrArg (Option.map _) (List.find?_eq_find?_of_perm h ?_)
      -- No district is listed twice, so at most one entry is that of the district.
      rintro x ⟨hx, hxd⟩ y ⟨hy, hyd⟩
      have hsame : x.1 = y.1 := (of_decide_eq_true hxd).trans (of_decide_eq_true hyd).symm
      exact List.inj_on_of_nodup_map ha.passNumbers_nodup hx hy hsame
  | ranges hat h =>
      intro ha
      refine ⟨fun n => ?_, fun _ => rfl, fun _ _ => rfl⟩
      rw [districtAt, hat]
      refine find?_map_replace ?_ ?_ _ _
      · exact h.any_eq
      · rfl
  | letters hat h =>
      intro ha
      refine ⟨fun _ => rfl, fun _ => rfl, fun n l => ?_⟩
      rw [hasContainerAt, hat]
      refine congrArg (Option.getD · true) ?_
      refine find?_map_replace ?_ ?_ _ _
      · rfl
      · show (!_ && !_) = (!_ && !_)
        rw [h.isEmpty_eq, h.any_eq]
  | districts h hapart =>
      intro ha
      refine ⟨fun n => ?_, fun _ => rfl, fun _ _ => rfl⟩
      refine congrArg (Option.map _) (List.find?_eq_find?_of_perm h ?_)
      -- Entries around one number belong to one district, which is listed once.
      rintro x ⟨hx, hxn⟩ y ⟨hy, hyn⟩
      exact List.inj_on_of_nodup_map ha.districts_nodup hx hy (hapart n x hx y hy hxn hyn)
  | exceptions h hapart =>
      intro ha
      refine ⟨fun _ => rfl, fun _ => rfl, fun n l => ?_⟩
      refine congrArg (fun found => (Option.map _ found).getD true)
        (List.find?_eq_find?_of_perm h ?_)
      rintro x ⟨hx, hxn⟩ y ⟨hy, hyn⟩
      by_contra hne
      have hsymm : Std.Symm fun e f : (String × String) × List String =>
          ∀ n, ¬ (Reference.within n e.1 = true ∧ Reference.within n f.1 = true) :=
        ⟨fun e f hef n hn => hef n hn.symm⟩
      exact hapart.forall hx hy hne n ⟨hxn, hyn⟩

end Rearranged

end Draft

/-- Bounds around one number hold no other. -/
theorem eq_of_within {n : Nat} {text : String} (h : Reference.within n (text, text) = true) :
    n = numeral text := by
  rw [Reference.within, Bool.and_eq_true, decide_eq_true_eq, decide_eq_true_eq] at h
  exact Nat.le_antisymm h.2 h.1

/-- **Only entries that overlap depend on their order.**  Calls whose entries are a free
    rearrangement of those of a configuration are a configuration too, and a service on
    their tables gives the same answer to every request. -/
theorem rearranged_calls_answer_alike {a b : List Call} {t : Tables}
    (ht : Tables.ofCalls a = .ok t) (h : (Draft.listed a).Rearranged (Draft.listed b)) :
    ∃ u, Tables.ofCalls b = .ok u ∧ ∀ postalCode houseNumber,
      Service.answer { tables := u } (.lookUp postalCode houseNumber)
        = Service.answer { tables := t } (.lookUp postalCode houseNumber) := by
  rw [Tables.ofCalls, ofCalls_eq_listed] at ht
  obtain ⟨hconsistent, hentries⟩ := (build_eq_ok_iff _ t).mp ht
  obtain ⟨u, hu⟩ := (exists_build_iff _).mpr (h.consistent hconsistent)
  have hentries' := ((build_eq_ok_iff _ u).mp hu).2
  refine ⟨u, ?_, fun postalCode houseNumber => congrArg Service.Answer.outcome ?_⟩
  · rw [Tables.ofCalls, ofCalls_eq_listed]
    exact hu
  · rw [lookUp_eq hentries', lookUp_eq hentries]
    exact ((h.alike hconsistent).lookUp_eq postalCode houseNumber).symm

/-- All tables are listed the other way round, so are the ranges of a district, and letters
    stand there twice and in another case. -/
theorem rearranged_calls_answer_alike_of_reversed :
    ∃ t u, Tables.ofCalls
        [.district .noord [("1020", "1039"), ("0400", "0400")], .passNumber .noord "1",
         .containerException ("1020", "1020") ["AB", "cd"], .district .oost [("1019", "1019")],
         .passNumber .oost "2", .noContainers ("1100", "1200")] = .ok t ∧
      Tables.ofCalls
        [.noContainers ("1100", "1200"), .passNumber .oost "2", .passNumber .noord "1",
         .district .oost [("1019", "1019")],
         .containerException ("1020", "1020") ["CD", "Ab", "cD"],
         .district .noord [("0400", "0400"), ("1020", "1039")]] = .ok u ∧
      Service.answer { tables := t } (.lookUp "1020 cd" none)
        = .outcome (.ok ⟨.noord, "1", false⟩) ∧
      Service.answer { tables := u } (.lookUp "1020 cd" none)
        = .outcome (.ok ⟨.noord, "1", false⟩) := by
  have ht : Tables.ofCalls
        [.district .noord [("1020", "1039"), ("0400", "0400")], .passNumber .noord "1",
         .containerException ("1020", "1020") ["AB", "cd"], .district .oost [("1019", "1019")],
         .passNumber .oost "2", .noContainers ("1100", "1200")]
      = .ok ⟨[⟨.noord, [⟨1020, 1039, by decide⟩, ⟨400, 400, by decide⟩]⟩,
          ⟨.oost, [⟨1019, 1019, by decide⟩]⟩], [(.noord, "1"), (.oost, "2")],
          [⟨⟨1020, 1020, by decide⟩, [⟨0, 1⟩, ⟨2, 3⟩]⟩, ⟨⟨1100, 1200, by decide⟩, []⟩]⟩ := by
    rfl
  have hletters : SameLetters ["AB", "cd"] ["CD", "Ab", "cD"] := ⟨by decide, by decide⟩
  have hdistricts : Draft.DistrictsApart
      ⟨[(.noord, [("0400", "0400"), ("1020", "1039")]), (.oost, [("1019", "1019")])],
        [(.oost, "2"), (.noord, "1")],
        [(("1020", "1020"), ["CD", "Ab", "cD"]), (("1100", "1200"), [])]⟩ := by
    have hoost : ∀ n, [("1019", "1019")].any (Reference.within n) = true → n = 1019 := by
      intro n hn
      rw [List.any_cons, List.any_nil, Bool.or_false] at hn
      exact (eq_of_within hn).trans (by decide)
    intro n e he f hf hen hfn
    simp only [List.mem_cons, List.not_mem_nil, or_false] at he hf
    rcases he with rfl | rfl <;> rcases hf with rfl | rfl
    · rfl
    · rw [hoost n hfn] at hen
      exact absurd hen (by decide)
    · rw [hoost n hen] at hfn
      exact absurd hfn (by decide)
    · rfl
  have hexceptions : Draft.ExceptionsApart
      ⟨[(.oost, [("1019", "1019")]), (.noord, [("0400", "0400"), ("1020", "1039")])],
        [(.oost, "2"), (.noord, "1")],
        [(("1020", "1020"), ["CD", "Ab", "cD"]), (("1100", "1200"), [])]⟩ := by
    refine List.pairwise_pair.mpr fun n hn => ?_
    rw [eq_of_within hn.1] at hn
    exact absurd hn.2 (by decide)
  have hfree : Draft.Rearranged
      ⟨[(.noord, [("1020", "1039"), ("0400", "0400")]), (.oost, [("1019", "1019")])],
        [(.noord, "1"), (.oost, "2")],
        [(("1020", "1020"), ["AB", "cd"]), (("1100", "1200"), [])]⟩
      ⟨[(.oost, [("1019", "1019")]), (.noord, [("0400", "0400"), ("1020", "1039")])],
        [(.oost, "2"), (.noord, "1")],
        [(("1100", "1200"), []), (("1020", "1020"), ["CD", "Ab", "cD"])]⟩ :=
    (((Draft.Rearranged.passNumbers (.swap _ _ _)).trans
      (.ranges (List.nil_append _).symm (.swap _ _ _))).trans
      (.letters (List.nil_append _).symm hletters)).trans
      ((Draft.Rearranged.districts (.swap _ _ _) hdistricts).trans
        (.exceptions (.swap _ _ _) hexceptions))
  obtain ⟨u, hu, halike⟩ := rearranged_calls_answer_alike ht
    (b := [.noContainers ("1100", "1200"), .passNumber .oost "2", .passNumber .noord "1",
      .district .oost [("1019", "1019")],
      .containerException ("1020", "1020") ["CD", "Ab", "cD"],
      .district .noord [("0400", "0400"), ("1020", "1039")]]) hfree
  refine ⟨_, u, ht, hu, by rfl, ?_⟩
  exact (halike "1020 cd" none).trans (by rfl)

end WastePass
