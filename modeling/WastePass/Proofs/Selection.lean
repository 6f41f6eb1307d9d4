import WastePass.Proofs.Effects
import WastePass.Proofs.Typing

/-!
# Selection — the row that is selected is always there

    The rows of the district screen are taken once.  The keys that arrive there walk over
    them, one row at a time and not beyond either end: `walk` adds the steps of the keys
    and brings each sum back between the first row and the last.  `selection_walks` says
    of every run that the selection is where that walk has led, whatever was typed,
    looked up and put in use in between.
-/

namespace WastePass

/-- How far a key goes down: one row, one row back, or none. -/
def Key.step (key : Key) : Int :=
  if key.code ∈ [.down, .char 'j'] then 1
  else if key.code ∈ [.up, .char 'k'] then -1
  else 0

theorem Key.step_of_up {key : Key} (h : key.code ∈ [.up, .char 'k']) : key.step = -1 := by
  have hdown : key.code ∉ [.down, .char 'j'] := by grind
  rw [step, if_neg hdown, if_pos h]

theorem Key.step_eq_zero {key : Key} (h : key.code ∉ [.up, .char 'k', .down, .char 'j']) :
    key.step = 0 := by
  have hdown : key.code ∉ [.down, .char 'j'] := by grind
  have hup : key.code ∉ [.up, .char 'k'] := by grind
  rw [step, if_neg hdown, if_neg hup]

/-- The keys that arrive at the district screen, of those that follow. -/
def Place.scrolling : Place → List Key → List Key
  | _, [] => []
  | p, key :: keys =>
      if p.screen = .districts then key :: Place.scrolling (p.next key) keys
      else Place.scrolling (p.next key) keys

/-- The nearest of the given number of rows, and the first when there is none. -/
def nearestRow (rows : Nat) (i : Int) : Int :=
  max 0 (min i (rows - 1))

/-- Where keys lead over the rows, from one of them. -/
def walk (rows : Nat) (i : Int) (keys : List Key) : Int :=
  keys.foldl (fun i key => nearestRow rows (i + key.step)) i

namespace Session

/-- The row that is selected is there, or there are no rows and it is the first. -/
def OnRow (s : Session) : Prop :=
  s.selected ≤ s.overview.length - 1

/-- A key without a step stays where the selection is. -/
theorem nearestRow_of_still {s : Session} (h : s.OnRow) {key : Key}
    (hstill : key.code ∉ [.up, .char 'k', .down, .char 'j']) :
    (s.selected : Int) = nearestRow s.overview.length (s.selected + key.step) := by
  rw [Key.step_eq_zero hstill, nearestRow]
  unfold OnRow at h
  omega

/-- On the district screen a key moves the selection by its step, as far as there are rows. -/
theorem pressOnDistricts_selected {s : Session} (h : s.OnRow) (key : Key) :
    ((s.pressOnDistricts key).1.selected : Int)
      = nearestRow s.overview.length (s.selected + key.step) := by
  have hdone := s.doneOnDistricts key
  generalize s.pressOnDistricts key = done at hdone ⊢
  cases hdone with
  | above hcode =>
      rw [moveUp_eq, Key.step_of_up hcode, nearestRow]
      unfold OnRow at h
      dsimp only
      omega
  | below hcode =>
      have hstep : key.step = 1 := if_pos hcode
      rw [moveDown_eq, hstep, nearestRow]
      unfold OnRow at h
      dsimp only
      split <;> omega
  | back hcode => exact nearestRow_of_still h (by grind)
  | quit hcode => exact nearestRow_of_still h (by simp [hcode])
  | ignored hwalks _ _ => exact nearestRow_of_still h hwalks

/-- A key moves the selection by its step on the district screen, and not at all elsewhere. -/
theorem press_selected {s : Session} (h : s.OnRow) (key : Key) :
    ((s.press key).1.selected : Int)
      = if s.screen = .districts then nearestRow s.overview.length (s.selected + key.step)
        else s.selected := by
  have hdone := s.done_press key
  generalize s.press key = done at hdone ⊢
  cases hdone with
  | quit hcode _ =>
      rw [← nearestRow_of_still h (by simp [hcode]), ite_self]
  | screen hcode =>
      rw [← nearestRow_of_still h (by simp [hcode]), ite_self]
  | onLookup hscreen _ _ =>
      have hchange := change_pressOnLookup hscreen key
      rw [if_neg (by rw [hscreen]; decide), hchange.on_lookup hscreen]
  | onDistricts hscreen _ _ =>
      rw [if_pos hscreen]
      exact pressOnDistricts_selected h key

theorem nearestRow_bounds (rows : Nat) (i : Int) :
    0 ≤ nearestRow rows i ∧ nearestRow rows i ≤ (rows - 1 : Nat) := by
  unfold nearestRow
  omega

/-- No key leads away from the rows. -/
theorem onRow_press {s : Session} (h : s.OnRow) (key : Key) : (s.press key).1.OnRow := by
  have hselected := press_selected h key
  have hbounds := nearestRow_bounds s.overview.length (s.selected + key.step)
  unfold OnRow at h ⊢
  rw [(s.sameRecords_press key).overview]
  split at hselected <;> omega

/-- One key moves the selection by one row at most. -/
theorem press_selected_cases {s : Session} (h : s.OnRow) (key : Key) :
    (s.press key).1.selected = s.selected ∨
      (s.screen = .districts ∧ key.step = 1 ∧ s.selected + 1 < s.overview.length ∧
        (s.press key).1.selected = s.selected + 1) ∨
      (s.screen = .districts ∧ key.step = -1 ∧ 0 < s.selected ∧
        (s.press key).1.selected + 1 = s.selected) := by
  have hselected := press_selected h key
  have hsteps : key.step = 1 ∨ key.step = -1 ∨ key.step = 0 := by
    unfold Key.step
    split
    · exact Or.inl rfl
    · split
      · exact Or.inr (Or.inl rfl)
      · exact Or.inr (Or.inr rfl)
  unfold OnRow at h
  unfold nearestRow at hselected
  by_cases hscreen : s.screen = .districts
  · rw [if_pos hscreen] at hselected
    simp only [hscreen, true_and]
    omega
  · rw [if_neg hscreen] at hselected
    omega

/-! ## Runs -/

/-- After any moves the rows are the same, and the selection is where the keys lead that
    arrived at the district screen. -/
theorem foldl_move_selected (moves : List Move) : ∀ s : Session, s.OnRow →
    (moves.foldl move s).OnRow ∧ (moves.foldl move s).overview = s.overview ∧
      ((moves.foldl move s).selected : Int)
        = walk s.overview.length s.selected
            (Place.scrolling s.place (moves.filterMap Move.key?)) := by
  -- From any session on a row: the first move leads to a row, and the rest is walked from there.
  induction moves with
  | nil => exact fun s h => ⟨h, rfl, rfl⟩
  | cons m moves ih =>
      intro s h
      cases m with
      | press key =>
          obtain ⟨hrow, hoverview, hwalk⟩ := ih (s.press key).1 (onRow_press h key)
          rw [(s.sameRecords_press key).overview] at hoverview hwalk
          refine ⟨hrow, hoverview, hwalk.trans ?_⟩
          rw [press_selected h key, (s.press_eq key).1]
          show _ = walk s.overview.length s.selected
            (Place.scrolling s.place (key :: moves.filterMap Move.key?))
          rw [Place.scrolling]
          by_cases hscreen : s.screen = .districts
          · rw [if_pos hscreen, if_pos (show s.place.screen = .districts from hscreen)]
            rfl
          · rw [if_neg hscreen, if_neg (show ¬ s.place.screen = .districts from hscreen)]
      -- Neither a lookup nor other tables touch the rows, the selection or the place.
      | lookUp time => exact ih (s.recordLookup time) h
      | replace t => exact ih (s.withTables t) h

/-- The selection of a session, when these rows were taken and these keys were pressed. -/
structure Walked (s : Session) (rows : List OverviewRow) (keys : List Key) : Prop where
  place : s.place = keys.foldl Place.next Place.first
  overview : s.overview = rows
  onRow : rows ≠ [] → s.selected < rows.length
  noRow : rows = [] → s.selected = 0
  walked : (s.selected : Int) = walk rows.length 0 (Place.scrolling Place.first keys)
  next : ∀ key, (s.press key).1.selected = s.selected ∨
    (s.screen = .districts ∧ key.step = 1 ∧ s.selected + 1 < rows.length ∧
      (s.press key).1.selected = s.selected + 1) ∨
    (s.screen = .districts ∧ key.step = -1 ∧ 0 < s.selected ∧
      (s.press key).1.selected + 1 = s.selected)

theorem walked_foldl_move (t : Tables) (limit : Nat) (moves : List Move) :
    (moves.foldl move (start t limit)).Walked t.overview (moves.filterMap Move.key?) := by
  have hstart : (start t limit).OnRow := Nat.zero_le _
  obtain ⟨hrow, hoverview, hwalk⟩ := foldl_move_selected moves (start t limit) hstart
  have hrows : (moves.foldl move (start t limit)).overview = t.overview := hoverview
  have hle := hrow
  unfold OnRow at hle
  rw [hrows] at hle
  refine
    { place := (foldl_move_eq moves (start t limit)).1, overview := hrows, onRow := ?_, noRow := ?_,
      walked := hwalk, next := ?_ }
  · intro hne
    have hpos := List.length_pos_iff.mpr hne
    omega
  · intro hnil
    rw [hnil] at hle
    exact Nat.le_zero.mp hle
  · intro key
    have hnext := press_selected_cases hrow key
    rwa [hrows] at hnext

/-- **The selection always points at a row**, and is where the keys have led it, after any
    moves and after any run. -/
theorem selection_walks (t : Tables) (limit : Nat) :
    (∀ moves : List Move,
      (moves.foldl move (start t limit)).Walked t.overview (moves.filterMap Move.key?)) ∧
    ∀ turns : List Turn,
      ((start t limit).run turns).Walked t.overview (turns.filterMap Turn.key?) := by
  refine ⟨walked_foldl_move t limit, fun turns => ?_⟩
  obtain ⟨moves, hkeys, hrun⟩ := exists_moves turns (start t limit)
  rw [hrun, ← hkeys]
  exact walked_foldl_move t limit moves

end Session

end WastePass
