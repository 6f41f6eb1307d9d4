import WastePass.Proofs.Keys

/-!
# Typing — each field holds what was typed into it

    Of the keys of a run, those that arrive at a field are told by the keys before them
    alone.  `fields_are_typed` says of every run that a field holds what the line editor
    makes of the keys that arrived there, whatever was looked up and whichever tables
    were put in use in between.
-/

namespace WastePass

/-- The keys that arrive at a field, of those that follow. -/
def Place.received (field : InputField) : Place → List Key → List Key
  | _, [] => []
  | p, key :: keys =>
      if p = ⟨.lookup, field⟩ then key :: Place.received field (p.next key) keys
      else Place.received field (p.next key) keys

namespace Session

/-- What can happen to a session: a key is pressed, a lookup is made, tables are replaced. -/
inductive Move where
  | press (key : Key)
  | lookUp (time : ClockTime)
  | replace (tables : Tables)

/-- The session after a move. -/
def move (s : Session) : Move → Session
  | .press key => (s.press key).1
  | .lookUp time => s.recordLookup time
  | .replace tables => s.withTables tables

/-- The key of a move. -/
def Move.key? : Move → Option Key
  | .press key => some key
  | _ => none

/-- The key of a turn. -/
def Turn.key? : Turn → Option Key
  | .key _ pressed => some pressed
  | .tables _ => none

/-- After any moves the place is where the keys lead, and each field has been edited by the
    keys that arrived there. -/
theorem foldl_move_eq (moves : List Move) : ∀ s : Session,
    (moves.foldl move s).place = (moves.filterMap Move.key?).foldl Place.next s.place ∧
      ∀ field, (moves.foldl move s).line field
        = (Place.received field s.place (moves.filterMap Move.key?)).foldl Key.edit
            (s.line field) := by
  -- From any session: the keys that are left are routed from where the first leads.
  induction moves with
  | nil => exact fun s => ⟨rfl, fun field => rfl⟩
  | cons m moves ih =>
      intro s
      obtain ⟨hplace, hline⟩ := ih (s.move m)
      cases m with
      | press key =>
          obtain ⟨hnext, hedit⟩ := s.press_eq key
          refine ⟨hplace.trans (congrArg (List.foldl Place.next · _) hnext), fun field => ?_⟩
          rw [List.foldl_cons, hline]
          show (Place.received field (s.press key).1.place _).foldl Key.edit
              ((s.press key).1.line field)
            = (Place.received field s.place (key :: moves.filterMap Move.key?)).foldl Key.edit _
          rw [Place.received, hnext, hedit]
          by_cases harrives : s.place = ⟨.lookup, field⟩
          · rw [if_pos harrives, if_pos harrives]
            rfl
          · rw [if_neg harrives, if_neg harrives]
      -- Neither a lookup nor other tables touch the place or a field.
      | lookUp time => exact ⟨hplace, hline⟩
      | replace tables => exact ⟨hplace, hline⟩

/-- The turns of a run are moves: a key that asks for a lookup is followed by it. -/
theorem exists_moves (turns : List Turn) : ∀ s : Session,
    ∃ moves : List Move, moves.filterMap Move.key? = turns.filterMap Turn.key? ∧
      s.run turns = moves.foldl move s := by
  induction turns with
  | nil => exact fun s => ⟨[], rfl, rfl⟩
  | cons turn turns ih =>
      intro s
      obtain ⟨moves, hkeys, hrun⟩ := ih (s.after turn)
      have hstep : s.run (turn :: turns) = (s.after turn).run turns := rfl
      cases turn with
      | key time key =>
          have hafter : s.after (.key time key) = (s.handle time key).1 := rfl
          rw [hafter, handle_fst] at hrun
          rw [hstep, hafter, handle_fst, hrun]
          by_cases hasks : (s.press key).2 = .lookUp
          · rw [if_pos hasks]
            exact ⟨.press key :: .lookUp time :: moves, congrArg (key :: ·) hkeys, rfl⟩
          · rw [if_neg hasks]
            exact ⟨.press key :: moves, congrArg (key :: ·) hkeys, rfl⟩
      | tables t => exact ⟨.replace t :: moves, hkeys, hstep.trans hrun⟩

/-- The session shows and holds what these keys have typed. -/
structure Typed (s : Session) (keys : List Key) : Prop where
  place : s.place = keys.foldl Place.next Place.first
  postalCode : s.postalCode.toList
    = (Place.received .postalCode Place.first keys).foldl Key.edit []
  houseNumber : s.houseNumber.toList
    = (Place.received .houseNumber Place.first keys).foldl Key.edit []

/-- Moves from the beginning type their keys. -/
theorem typed_foldl_move (t : Tables) (limit : Nat) (moves : List Move) :
    (moves.foldl move (start t limit)).Typed (moves.filterMap Move.key?) := by
  obtain ⟨hplace, hline⟩ := foldl_move_eq moves (start t limit)
  exact ⟨hplace, hline .postalCode, hline .houseNumber⟩

/-- **Each field holds what was typed into it**, after any moves and after any run: keys
    that went to the other field or to the other screen, lookups and other tables have
    left no trace in it. -/
theorem fields_are_typed (t : Tables) (limit : Nat) :
    (∀ moves : List Move,
      (moves.foldl move (start t limit)).Typed (moves.filterMap Move.key?)) ∧
    ∀ turns : List Turn, ((start t limit).run turns).Typed (turns.filterMap Turn.key?) := by
  refine ⟨typed_foldl_move t limit, fun turns => ?_⟩
  obtain ⟨moves, hkeys, hrun⟩ := exists_moves turns (start t limit)
  rw [hrun, ← hkeys]
  exact typed_foldl_move t limit moves

end Session

end WastePass
