import Mathlib.Data.List.Basic
import WastePass.Log.Sink

/-!
# Disks — what writing changes, and what paths cannot see

    Writing to a place changes the file there and no other.  Paths are walked over places
    alone, so two disks with the same places send every path the same way whatever their
    files hold (`AgreeBut`).  Adding to a file keeps in front what the file held, and to a
    log is only ever added (`Grows`).
-/

namespace WastePass

open Text (Bytes)

namespace Disk

/-! ## One file -/

/-- A file that takes the place of another has its place. -/
theorem replaced_fst (place : List String) (bytes : Bytes) (f : List String × Bytes) :
    (if f.1 = place then (place, bytes) else f).1 = f.1 := by
  by_cases h : f.1 = place
  · rw [if_pos h, h]
  · rw [if_neg h]

/-- Writing puts the bytes at their place and leaves all other places alone. -/
theorem file?_write (d : Disk) (place other : List String) (bytes : Bytes) :
    (d.write place bytes).file? other = if other = place then some bytes else d.file? other := by
  -- A file that is there is replaced where it stands, one that is not comes behind all others.
  unfold write
  by_cases hthere : (d.file? place).isSome
  · rw [if_pos hthere]
    have hsame : ((fun f : List String × Bytes => decide (f.1 = other)) ∘
        fun f => if f.1 = place then (place, bytes) else f) = fun f => decide (f.1 = other) := by
      funext f
      rw [Function.comp_apply, replaced_fst]
    unfold file? at hthere ⊢
    rw [List.find?_map, hsame]
    by_cases hplace : other = place
    · rw [if_pos hplace]
      rw [← hplace] at hthere ⊢
      cases hfound : d.files.find? fun f => decide (f.1 = other) with
      | none =>
          rw [hfound] at hthere
          exact nomatch hthere
      | some f =>
          have hf : f.1 = other := by simpa using List.find?_some hfound
          rw [Option.map_some, Option.map_some, if_pos hf]
    · rw [if_neg hplace]
      cases hfound : d.files.find? fun f => decide (f.1 = other) with
      | none => rfl
      | some f =>
          have hf : f.1 = other := by simpa using List.find?_some hfound
          rw [Option.map_some, Option.map_some, if_neg (fun h => hplace (hf.symm.trans h))]
          rfl
  · rw [if_neg hthere]
    unfold file? at hthere ⊢
    rw [List.find?_append]
    by_cases hplace : other = place
    · rw [if_pos hplace, hplace]
      rw [Option.isSome_map, Bool.not_eq_true, Option.isSome_eq_false_iff,
        Option.isNone_iff_eq_none] at hthere
      rw [hthere, Option.none_or, List.find?_cons_of_pos (by exact decide_eq_true rfl)]
      rfl
    · have hnew : List.find? (fun f => decide (f.1 = other)) [(place, bytes)] = none := by
        rw [List.find?_cons_of_neg (by simpa using fun h => hplace h.symm), List.find?_nil]
      rw [if_neg hplace, hnew, Option.or_none]

/-- Adding puts the bytes behind those that are there. -/
theorem file?_append (d : Disk) (place other : List String) (bytes : Bytes) :
    (d.append place bytes).file? other
      = if other = place then some ((d.file? place).getD [] ++ bytes) else d.file? other :=
  d.file?_write place other _

/-! ## Growing -/

/-- The one disk has become the other by adding to the file at a place, if by anything. -/
structure Grows (place : List String) (d d' : Disk) : Prop where
  other : ∀ p, p ≠ place → d'.file? p = d.file? p
  kept : ∀ p bytes, d.file? p = some bytes → ∃ added, d'.file? p = some (bytes ++ added)

theorem Grows.refl (place : List String) (d : Disk) : d.Grows place d where
  other _ _ := rfl
  kept _ bytes h := ⟨[], by rw [h, List.append_nil]⟩

theorem Grows.trans {place : List String} {d₁ d₂ d₃ : Disk} (h : d₁.Grows place d₂)
    (h' : d₂.Grows place d₃) : d₁.Grows place d₃ where
  other p hp := (h'.other p hp).trans (h.other p hp)
  kept p bytes hbytes := by
    obtain ⟨first, hfirst⟩ := h.kept p bytes hbytes
    obtain ⟨second, hsecond⟩ := h'.kept p _ hfirst
    exact ⟨first ++ second, by rw [hsecond, List.append_assoc]⟩

end Disk

namespace Log

end Log

namespace Disk

/-! ## Paths -/

/-- The places of the files. -/
def places (d : Disk) : List (List String) := d.files.map (·.1)

/-- The path leads to a place where something is. -/
def LeadsTo (d : Disk) (text : String) (place : List String) : Prop :=
  ∃ path, Path.read text = .ok path ∧ path.names.foldlM d.enter (d.origin path) = .ok place

/-- Two disks have their files at the same places, and the same files but for one. -/
structure AgreeBut (place : List String) (d d' : Disk) : Prop where
  here : d'.here = d.here
  places : d'.places = d.places
  other : ∀ p, p ≠ place → d'.file? p = d.file? p

theorem isSome_file?_iff (d : Disk) (p : List String) :
    (d.file? p).isSome = true ↔ p ∈ d.places := by
  unfold file? places
  rw [Option.isSome_map, List.find?_isSome, List.mem_map]
  simp only [decide_eq_true_eq]

theorem isDirectory_eq (d : Disk) (p : List String) :
    d.isDirectory p = (p.isPrefixOf d.here || d.places.any fun q => p.isPrefixOf q && p ≠ q) := by
  unfold isDirectory places
  rw [List.any_map]
  rfl

/-- Writing where a file is makes no new place. -/
theorem places_write {d : Disk} {place : List String} (h : place ∈ d.places) (bytes : Bytes) :
    (d.write place bytes).places = d.places := by
  unfold write
  rw [if_pos ((d.isSome_file?_iff place).mpr h)]
  unfold places
  rw [List.map_map]
  refine List.map_congr_left fun f _ => ?_
  exact replaced_fst place bytes f

/-- Writing where no file is makes one. -/
theorem places_write_new {d : Disk} {place : List String} (h : place ∉ d.places)
    (bytes : Bytes) : (d.write place bytes).places = d.places ++ [place] := by
  unfold write
  rw [if_neg (fun hthere => h ((d.isSome_file?_iff place).mp hthere))]
  exact List.map_append

theorem here_write (d : Disk) (place : List String) (bytes : Bytes) :
    (d.write place bytes).here = d.here := by
  unfold write
  split <;> rfl

namespace AgreeBut

variable {place : List String} {d d' : Disk}

/-- What is added on both disks does not set them further apart. -/
theorem append (h : AgreeBut place d d') (target : List String) (bytes : Bytes) :
    AgreeBut place (d.append target bytes) (d'.append target bytes) where
  here := by
    unfold Disk.append
    rw [here_write, here_write, h.here]
  places := by
    -- Both disks have a file at the target or neither has.
    unfold Disk.append
    by_cases hthere : target ∈ d.places
    · rw [places_write hthere, places_write (by rw [h.places]; exact hthere), h.places]
    · rw [places_write_new hthere, places_write_new (by rw [h.places]; exact hthere), h.places]
  other p hp := by
    rw [file?_append, file?_append]
    by_cases hat : p = target
    · rw [if_pos hat, if_pos hat, ← hat, h.other p hp]
    · rw [if_neg hat, if_neg hat, h.other p hp]

theorem isDirectory (h : AgreeBut place d d') (p : List String) :
    d'.isDirectory p = d.isDirectory p := by
  rw [isDirectory_eq, isDirectory_eq, h.here, h.places]

theorem isSome_file? (h : AgreeBut place d d') (p : List String) :
    (d'.file? p).isSome = (d.file? p).isSome := by
  rw [Bool.eq_iff_iff, isSome_file?_iff, isSome_file?_iff, h.places]

theorem isThere (h : AgreeBut place d d') (p : List String) : d'.isThere p = d.isThere p := by
  rw [Disk.isThere, Disk.isThere, h.isDirectory, h.isSome_file?]

theorem toward (h : AgreeBut place d d') (p : List String) (name : String) :
    d'.toward p name = d.toward p name := by
  unfold Disk.toward
  rw [h.isDirectory]

theorem enter (h : AgreeBut place d d') : d'.enter = d.enter := by
  funext p name
  unfold Disk.enter
  rw [h.toward]
  simp only [h.isThere]

theorem origin (h : AgreeBut place d d') (path : Path) : d'.origin path = d.origin path := by
  unfold Disk.origin
  rw [h.here]

/-- A file is created or added to at the same place. -/
theorem placeToAppend (h : AgreeBut place d d') (text : String) :
    d'.placeToAppend text = d.placeToAppend text := by
  unfold Disk.placeToAppend
  simp only [h.enter, h.origin, h.toward, h.isDirectory]

/-- A path that does not lead to the one file reads the same. -/
theorem read (h : AgreeBut place d d') {text : String} (hpath : ¬ d.LeadsTo text place) :
    d'.read text = d.read text := by
  unfold Disk.read
  cases hread : Path.read text with
  | error f => rfl
  | ok path =>
      show (path.names.foldlM d'.enter (d'.origin path) >>= _) = (path.names.foldlM d.enter _ >>= _)
      rw [h.enter, h.origin]
      cases hwalk : path.names.foldlM d.enter (d.origin path) with
      | error f => rfl
      | ok p =>
          -- The walk is the same, and it does not end at the file that differs.
          have hp : p ≠ place := by
            rintro rfl
            exact hpath ⟨path, hread, hwalk⟩
          simp only [bind, Except.bind, h.other p hp]

end AgreeBut

end Disk

namespace Log

end Log

end WastePass
