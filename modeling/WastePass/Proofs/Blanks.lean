import Mathlib.Data.List.DropRight
import Mathlib.Data.List.TakeWhile
import WastePass.Text.Blank

/-!
# Blanks — what is cut off a text and what is left out of it

    `whiteSpace` lists the code points that Unicode calls White_Space; they are the blanks
    and there are no others.  `TrimsTo cs core` says without any scanning what it is to cut
    the blanks off both ends: they stand around `core`, and `core` has none at its ends.
-/

namespace WastePass

/-- What goes from the front of a list goes from it wherever something else follows. -/
theorem dropWhile_append_of_head? {α : Type} {p : α → Bool} {xs ys : List α}
    (hxs : ∀ x ∈ xs, p x = true) (hys : ∀ y ∈ ys.head?, p y = false) :
    (xs ++ ys).dropWhile p = ys := by
  rw [List.dropWhile_append_of_pos hxs]
  cases ys with
  | nil => rfl
  | cons y ys =>
      refine List.dropWhile_cons_of_neg ?_
      rw [hys y rfl]
      exact Bool.false_ne_true

namespace Text

/-- The code points with the Unicode property White_Space. -/
def whiteSpace : List Nat :=
  [0x09, 0x0A, 0x0B, 0x0C, 0x0D, 0x20, 0x85, 0xA0, 0x1680, 0x2000, 0x2001, 0x2002, 0x2003,
   0x2004, 0x2005, 0x2006, 0x2007, 0x2008, 0x2009, 0x200A, 0x2028, 0x2029, 0x202F, 0x205F,
   0x3000]

theorem isBlank_iff (c : Char) : isBlank c = true ↔ c.toNat ∈ whiteSpace := by
  unfold isBlank
  simp only [whiteSpace, List.mem_cons, List.not_mem_nil, or_false, Bool.or_eq_true,
    Bool.and_eq_true, decide_eq_true_eq, beq_iff_eq]
  omega

theorem not_isBlank_iff (c : Char) : isBlank c = false ↔ c.toNat ∉ whiteSpace := by
  rw [← isBlank_iff, Bool.not_eq_true]

/-- The text is white space only, or empty. -/
def White (text : String) : Prop :=
  ∀ c ∈ text.toList, c.toNat ∈ whiteSpace

theorem allBlank_iff_white (text : String) : allBlank text = true ↔ White text := by
  simp only [allBlank, White, List.all_eq_true, isBlank_iff]

theorem not_allBlank_iff (text : String) : allBlank text = false ↔ ¬ White text := by
  rw [← allBlank_iff_white, Bool.not_eq_true]

/-! ## Cutting off -/

/-- The characters are these with white space around them, none of which is theirs. -/
structure TrimsTo (cs core : List Char) : Prop where
  around : ∃ ws vs, cs = ws ++ (core ++ vs) ∧ ∀ c ∈ ws ++ vs, c.toNat ∈ whiteSpace
  first : ∀ c ∈ core.head?, c.toNat ∉ whiteSpace
  last : ∀ c ∈ core.getLast?, c.toNat ∉ whiteSpace

theorem dropWhile_blank_append {ws cs : List Char} (hws : ∀ c ∈ ws, c.toNat ∈ whiteSpace)
    (hcs : ∀ c ∈ cs.head?, c.toNat ∉ whiteSpace) : (ws ++ cs).dropWhile isBlank = cs :=
  dropWhile_append_of_head? (fun c hc => (isBlank_iff c).mpr (hws c hc))
    fun c hc => (not_isBlank_iff c).mpr (hcs c hc)

theorem head?_dropWhile_blank (cs : List Char) :
    ∀ c ∈ (cs.dropWhile isBlank).head?, c.toNat ∉ whiteSpace := by
  intro c hc
  have hhead := List.head?_dropWhile_not isBlank cs
  rw [Option.mem_def.mp hc] at hhead
  exact (not_isBlank_iff c).mp hhead

theorem trimsTo_trim (cs : List Char) : TrimsTo cs (trim cs) := by
  have hstart : cs.takeWhile isBlank ++ trimStart cs = cs := List.takeWhile_append_dropWhile
  have hend : trim cs ++ ((trimStart cs).reverse.takeWhile isBlank).reverse = trimStart cs := by
    rw [trim, trimEnd, ← List.reverse_append, List.takeWhile_append_dropWhile,
      List.reverse_reverse]
  refine ⟨⟨_, _, by rw [hend, hstart], ?_⟩, ?_, ?_⟩
  · intro c hc
    rw [← isBlank_iff]
    rcases List.mem_append.mp hc with hc | hc
    · exact List.mem_takeWhile_imp hc
    · exact List.mem_takeWhile_imp (List.mem_reverse.mp hc)
  · intro c hc
    -- The front of what is left was the front before the end was cut.
    refine head?_dropWhile_blank cs c ?_
    show c ∈ (trimStart cs).head?
    rw [← hend, List.head?_append, hc]
    rfl
  · intro c hc
    rw [trim, trimEnd, List.getLast?_reverse] at hc
    exact head?_dropWhile_blank _ c hc

/-- **Cutting the blanks off** leaves the one middle part that has none at its ends. -/
theorem trimsTo_iff (cs core : List Char) : TrimsTo cs core ↔ trim cs = core := by
  constructor
  · rintro ⟨⟨ws, vs, rfl, hblank⟩, hfirst, hlast⟩
    have hws : ∀ c ∈ ws, c.toNat ∈ whiteSpace := fun c hc =>
      hblank c (List.mem_append_left vs hc)
    have hvs : ∀ c ∈ vs, c.toNat ∈ whiteSpace := fun c hc =>
      hblank c (List.mem_append_right ws hc)
    have hend : trimEnd (core ++ vs) = core := by
      rw [trimEnd, List.reverse_append, dropWhile_blank_append
        (fun c hc => hvs c (List.mem_reverse.mp hc)) (by rwa [List.head?_reverse]),
        List.reverse_reverse]
    cases core with
    | nil =>
        -- Nothing but blanks: they all go from the front.
        have hall : (ws ++ vs).dropWhile isBlank = [] :=
          List.dropWhile_eq_nil_iff.mpr fun c hc => (isBlank_iff c).mpr (hblank c hc)
        rw [trim, trimStart, List.nil_append, hall]
        rfl
    | cons c core =>
        have hstart : trimStart (ws ++ (c :: core ++ vs)) = c :: core ++ vs :=
          dropWhile_blank_append hws hfirst
        rw [trim, hstart, hend]
  · rintro rfl
    exact trimsTo_trim cs

theorem toList_trimmed (text : String) : (trimmed text).toList = trim text.toList := by
  rw [trimmed, String.toList_ofList]

/-- Nothing is left of a text between the white space around it when there is nothing else. -/
theorem trimmed_eq_empty_iff (text : String) : trimmed text = "" ↔ White text := by
  rw [← String.toList_eq_nil_iff, toList_trimmed, ← trimsTo_iff]
  constructor
  · rintro ⟨⟨ws, vs, htext, hblank⟩, -, -⟩ c hc
    rw [htext, List.nil_append] at hc
    exact hblank c hc
  · intro hwhite
    refine ⟨⟨text.toList, [], by rw [List.append_nil, List.append_nil], ?_⟩, ?_, ?_⟩
    · rwa [List.append_nil]
    · rw [List.head?_nil]
      intro c hc
      cases hc
    · rw [List.getLast?_nil]
      intro c hc
      cases hc

/-! ## Leaving out -/

/-- What is left of a text without its white space. -/
def compact (text : String) : List Char :=
  text.toList.filter fun c => c.toNat ∉ whiteSpace

theorem withoutBlanks_eq (text : String) : withoutBlanks text = compact text := by
  refine List.filter_congr fun c _ => ?_
  rw [Bool.eq_iff_iff, decide_eq_true_eq, ← not_isBlank_iff, Bool.not_eq_true']

end Text

end WastePass
