import WastePass.Console.Session

/-!
# Keys — what one key does, and what it leaves alone

    Where a key goes is told by the keys before it: `Place` is the screen that is shown
    and the field that is edited, and `Place.next` says which keys move it.  A line
    editor knows one text and nothing else.  A key that arrives at a field is given to
    the editor of that field (`press_eq`), and no key touches the tables, the overview or
    the lookups that were made (`sameRecords_press`).
-/

namespace WastePass

/-! ## Where keys go -/

/-- Where a key goes: the screen that is shown and the field that is edited. -/
structure Place where
  screen : Screen
  focus : InputField
  deriving DecidableEq

namespace Place

/-- Where the first key goes. -/
def first : Place := ⟨.lookup, .postalCode⟩

/-- Where the key after this one goes. -/
def next (p : Place) (key : Key) : Place :=
  if key.code = .function 2 then { p with screen := p.screen.other }
  else
    match p.screen with
    | .lookup =>
        if key.code ∈ [.tab, .backTab, .up, .down] then { p with focus := p.focus.other } else p
    | .districts =>
        if key.code ∈ [.left, .escape, .char 'b', .char 'd'] then { p with screen := .lookup }
        else p

end Place

/-- The line editor: what a key makes of the characters of a line. -/
def Key.edit (line : List Char) (key : Key) : List Char :=
  match key.code with
  | .char c => if key.modifiers.control || key.modifiers.alt then line else line ++ [c]
  | .backspace => line.dropLast
  | .escape => []
  | _ => line

namespace Session

/-- Where the next key goes. -/
def place (s : Session) : Place := ⟨s.screen, s.focus⟩

/-- The characters of a field. -/
def line (s : Session) : InputField → List Char
  | .postalCode => s.postalCode.toList
  | .houseNumber => s.houseNumber.toList

/-! ## One key -/

@[simp]
theorem place_withInput (s : Session) (text : String) : (s.withInput text).place = s.place := by
  cases hfocus : s.focus <;> simp [withInput, place, hfocus]

theorem line_withInput (s : Session) (text : String) (field : InputField) :
    (s.withInput text).line field = if s.focus = field then text.toList else s.line field := by
  cases hfocus : s.focus <;> cases field <;> simp [withInput, line, hfocus]

theorem toList_input (s : Session) : s.input.toList = s.line s.focus := by
  cases hfocus : s.focus <;> simp [input, line, hfocus]

/-- The lookup screen gives a key to the editor of the field in focus. -/
structure GivenTo (s : Session) (key : Key) (s' : Session) : Prop where
  place : s'.place = if key.code ∈ [.tab, .backTab, .up, .down]
    then { s.place with focus := s.focus.other } else s.place
  line : ∀ field, s'.line field = if s.focus = field then key.edit (s.line field) else s.line field

/-- A key that edits puts the edited text into the field in focus. -/
theorem GivenTo.edited {s : Session} {key : Key} {text : String}
    (hplace : key.code ∉ [.tab, .backTab, .up, .down])
    (htext : text.toList = key.edit (s.line s.focus)) : s.GivenTo key (s.withInput text) := by
  refine ⟨?_, fun field => ?_⟩
  · rw [if_neg hplace, place_withInput]
  · rw [line_withInput, htext]
    by_cases hfield : s.focus = field
    · rw [if_pos hfield, if_pos hfield, hfield]
    · rw [if_neg hfield, if_neg hfield]

theorem GivenTo.ignored {s : Session} {key : Key} (hplace : key.code ∉ [.tab, .backTab, .up, .down])
    (hedit : ∀ cs, key.edit cs = cs) : s.GivenTo key s := by
  refine ⟨(if_neg hplace).symm, fun field => ?_⟩
  rw [hedit, ite_self]

theorem GivenTo.moved {s : Session} {key : Key} (hcode : key.code ∈ [.tab, .backTab, .up, .down]) :
    s.GivenTo key { s with focus := s.focus.other } := by
  have hedit : ∀ cs, key.edit cs = cs := by
    intro cs
    simp only [List.mem_cons, List.not_mem_nil, or_false] at hcode
    rcases hcode with h | h | h | h <;> simp [Key.edit, h]
  refine ⟨(if_pos hcode).symm, fun field => ?_⟩
  rw [hedit, ite_self]
  rfl

/-- What a key does on the lookup screen: it moves the focus, puts the edited text into the
    field in focus, or changes nothing, and only in the last case asks for something beside. -/
theorem pressOnLookup_cases (s : Session) (key : Key) :
    (key.code ∈ [.tab, .backTab, .up, .down] ∧
        s.pressOnLookup key = ({ s with focus := s.focus.other }, .none)) ∨
      (key.code ∉ [.tab, .backTab, .up, .down] ∧
        ((∃ text, text.toList = key.edit (s.line s.focus) ∧
            s.pressOnLookup key = (s.withInput text, .none)) ∨
          ((∀ cs, key.edit cs = cs) ∧ ∃ action, s.pressOnLookup key = (s, action)))) := by
  obtain ⟨code, modifiers⟩ := key
  cases code with
  | char c =>
      refine Or.inr ⟨by simp, ?_⟩
      cases hmodified : modifiers.control || modifiers.alt with
      | true =>
          exact Or.inr ⟨fun cs => by simp [Key.edit, hmodified], .none,
            by simp [pressOnLookup, hmodified]⟩
      | false =>
          refine Or.inl ⟨s.input.push c, ?_, by simp [pressOnLookup, hmodified]⟩
          rw [String.toList_push, toList_input]
          simp [Key.edit, hmodified]
  | backspace =>
      refine Or.inr ⟨by simp, Or.inl ⟨withoutLast s.input, ?_, rfl⟩⟩
      rw [withoutLast, String.toList_ofList, toList_input]
      rfl
  | escape => exact Or.inr ⟨by simp, Or.inl ⟨"", by simp [Key.edit], rfl⟩⟩
  | tab => exact Or.inl ⟨by simp, rfl⟩
  | backTab => exact Or.inl ⟨by simp, rfl⟩
  | up => exact Or.inl ⟨by simp, rfl⟩
  | down => exact Or.inl ⟨by simp, rfl⟩
  | enter => exact Or.inr ⟨by simp, Or.inr ⟨fun _ => rfl, .lookUp, rfl⟩⟩
  | _ => exact Or.inr ⟨by simp, Or.inr ⟨fun _ => rfl, .none, rfl⟩⟩

/-- On the lookup screen every key goes to the field in focus. -/
theorem givenTo_pressOnLookup (s : Session) (key : Key) :
    s.GivenTo key (s.pressOnLookup key).1 := by
  rcases s.pressOnLookup_cases key with
    ⟨hcode, hpress⟩ | ⟨hcode, ⟨text, htext, hpress⟩ | ⟨hedit, action, hpress⟩⟩
  · rw [hpress]
    exact .moved hcode
  · rw [hpress]
    exact .edited hcode htext
  · rw [hpress]
    exact .ignored hcode hedit

/-- What a key does on the district screen. -/
inductive DoneOnDistricts (s : Session) (key : Key) : Session × Action → Prop where
  | above (hcode : key.code ∈ [.up, .char 'k']) : s.DoneOnDistricts key (s.moveUp, .none)
  | below (hcode : key.code ∈ [.down, .char 'j']) : s.DoneOnDistricts key (s.moveDown, .none)
  | back (hcode : key.code ∈ [.left, .escape, .char 'b', .char 'd']) :
      s.DoneOnDistricts key ({ s with screen := .lookup }, .none)
  | quit (hcode : key.code = .char 'q') : s.DoneOnDistricts key (s, .quit)
  | ignored (hwalks : key.code ∉ [.up, .char 'k', .down, .char 'j'])
      (hback : key.code ∉ [.left, .escape, .char 'b', .char 'd'])
      (hquit : key.code ≠ .char 'q') : s.DoneOnDistricts key (s, .none)

theorem doneOnDistricts (s : Session) (key : Key) :
    s.DoneOnDistricts key (s.pressOnDistricts key) := by
  unfold pressOnDistricts
  split
  · next hcode => exact .above (by simp [hcode])
  · next hcode => exact .above (by simp [hcode])
  · next hcode => exact .below (by simp [hcode])
  · next hcode => exact .below (by simp [hcode])
  · next hcode => exact .back (by simp [hcode])
  · next hcode => exact .back (by simp [hcode])
  · next hcode => exact .back (by simp [hcode])
  · next hcode => exact .back (by simp [hcode])
  · next hcode => exact .quit hcode
  · exact .ignored (by simp_all) (by simp_all) (by simp_all)

theorem moveUp_eq (s : Session) : s.moveUp = { s with selected := s.selected - 1 } := by
  unfold moveUp
  split
  · rfl
  · next hfirst =>
    have hstays : s.selected - 1 = s.selected := by omega
    rw [hstays]

theorem moveDown_eq (s : Session) :
    s.moveDown = { s with
      selected := if s.selected + 1 < s.overview.length then s.selected + 1 else s.selected } := by
  unfold moveDown
  split <;> rfl

/-- On the district screen a key leaves all fields, and some keys lead back. -/
theorem pressOnDistricts_eq (s : Session) (key : Key) :
    (s.pressOnDistricts key).1.line = s.line ∧
      (s.pressOnDistricts key).1.place
        = if key.code ∈ [.left, .escape, .char 'b', .char 'd']
          then { s.place with screen := .lookup } else s.place := by
  have hdone := s.doneOnDistricts key
  generalize s.pressOnDistricts key = done at hdone ⊢
  cases hdone with
  | above hcode =>
      rw [moveUp_eq]
      exact ⟨rfl, (if_neg (by grind)).symm⟩
  | below hcode =>
      rw [moveDown_eq]
      exact ⟨rfl, (if_neg (by grind)).symm⟩
  | back hcode => exact ⟨rfl, (if_pos hcode).symm⟩
  | quit hcode => exact ⟨rfl, (if_neg (by simp [hcode])).symm⟩
  | ignored _ hback _ => exact ⟨rfl, (if_neg hback).symm⟩

/-- What a key does: two keys mean the same everywhere, and the screen decides about the rest. -/
inductive Done (s : Session) (key : Key) : Session × Action → Prop where
  | quit (hcode : key.code = .char 'c') (hcontrol : key.modifiers.control = true) :
      s.Done key (s, .quit)
  | screen (hcode : key.code = .function 2) :
      s.Done key ({ s with screen := s.screen.other }, .none)
  | onLookup (hscreen : s.screen = .lookup) (hcode : key.code ≠ .function 2)
      (hquit : ¬ (key.code = .char 'c' ∧ key.modifiers.control = true)) :
      s.Done key (s.pressOnLookup key)
  | onDistricts (hscreen : s.screen = .districts) (hcode : key.code ≠ .function 2)
      (hquit : ¬ (key.code = .char 'c' ∧ key.modifiers.control = true)) :
      s.Done key (s.pressOnDistricts key)

theorem done_press (s : Session) (key : Key) : s.Done key (s.press key) := by
  unfold press
  split
  · next hquit =>
    rw [Bool.and_eq_true, decide_eq_true_eq] at hquit
    exact .quit hquit.1 hquit.2
  · next hquit =>
    rw [Bool.and_eq_true, decide_eq_true_eq] at hquit
    split
    · next hcode => exact .screen hcode
    · next hcode =>
      split
      · next hscreen => exact .onLookup hscreen hcode hquit
      · next hscreen => exact .onDistricts hscreen hcode hquit

/-- What a key does to the place and the fields. -/
theorem press_eq (s : Session) (key : Key) :
    (s.press key).1.place = s.place.next key ∧
      ∀ field, (s.press key).1.line field
        = if s.place = ⟨.lookup, field⟩ then key.edit (s.line field) else s.line field := by
  have hkept : (∀ cs, key.edit cs = cs) → ∀ field, s.line field
      = if s.place = ⟨.lookup, field⟩ then key.edit (s.line field) else s.line field := by
    intro hedit field
    rw [hedit, ite_self]
  have hdone := s.done_press key
  generalize s.press key = done at hdone ⊢
  cases hdone with
  | quit hcode hcontrol =>
      -- The key that quits everywhere writes nothing and leads nowhere.
      refine ⟨?_, hkept fun cs => by simp [Key.edit, hcode, hcontrol]⟩
      cases hscreen : s.screen <;> simp [Place.next, place, hcode, hscreen]
  | screen hcode =>
      refine ⟨?_, hkept fun cs => by simp [Key.edit, hcode]⟩
      rw [Place.next, if_pos hcode]
      rfl
  | onLookup hscreen hcode _ =>
      have hgiven := s.givenTo_pressOnLookup key
      rw [Place.next, if_neg hcode]
      simp only [place, hscreen]
      refine ⟨hgiven.place.trans (by simp [place, hscreen]), fun field => ?_⟩
      rw [hgiven.line field]
      simp
  | onDistricts hscreen hcode _ =>
      have hleft := s.pressOnDistricts_eq key
      rw [Place.next, if_neg hcode]
      simp only [place, hscreen]
      refine ⟨hleft.2.trans (by simp [place, hscreen]), fun field => ?_⟩
      rw [hleft.1]
      simp

/-! ## What a key changes -/

/-- At most one part of a session is another: texts and focus on the lookup screen only, the
    selection on the district screen only. -/
inductive Change (s : Session) : Session → Prop where
  | nothing : s.Change s
  | screen (screen : Screen) : s.Change { s with screen := screen }
  | focus (focus : InputField) (hscreen : s.screen = .lookup) : s.Change { s with focus := focus }
  | postalCode (text : String) (hscreen : s.screen = .lookup) (hfocus : s.focus = .postalCode) :
      s.Change { s with postalCode := text }
  | houseNumber (text : String) (hscreen : s.screen = .lookup) (hfocus : s.focus = .houseNumber) :
      s.Change { s with houseNumber := text }
  | selected (row : Nat) (hscreen : s.screen = .districts) : s.Change { s with selected := row }

theorem change_withInput {s : Session} (hscreen : s.screen = .lookup) (text : String) :
    s.Change (s.withInput text) := by
  unfold withInput
  split
  · next hfocus => exact .postalCode text hscreen hfocus
  · next hfocus => exact .houseNumber text hscreen hfocus

theorem change_pressOnLookup {s : Session} (hscreen : s.screen = .lookup) (key : Key) :
    s.Change (s.pressOnLookup key).1 := by
  rcases s.pressOnLookup_cases key with
    ⟨-, hpress⟩ | ⟨-, ⟨text, -, hpress⟩ | ⟨-, action, hpress⟩⟩
  · rw [hpress]
    exact .focus _ hscreen
  · rw [hpress]
    exact change_withInput hscreen text
  · rw [hpress]
    exact .nothing

theorem change_pressOnDistricts {s : Session} (hscreen : s.screen = .districts) (key : Key) :
    s.Change (s.pressOnDistricts key).1 := by
  have hdone := s.doneOnDistricts key
  generalize s.pressOnDistricts key = done at hdone ⊢
  cases hdone with
  | above _ =>
      rw [moveUp_eq]
      exact .selected _ hscreen
  | below _ =>
      rw [moveDown_eq]
      exact .selected _ hscreen
  | back _ => exact .screen _
  | quit _ => exact .nothing
  | ignored _ _ _ => exact .nothing

theorem change_press (s : Session) (key : Key) : s.Change (s.press key).1 := by
  have hdone := s.done_press key
  generalize s.press key = done at hdone ⊢
  cases hdone with
  | quit _ _ => exact .nothing
  | screen _ => exact .screen _
  | onLookup hscreen _ _ => exact change_pressOnLookup hscreen key
  | onDistricts hscreen _ _ => exact change_pressOnDistricts hscreen key

/-- The tables, the overview and what was looked up are the same. -/
structure SameRecords (s s' : Session) : Prop where
  tables : s'.tables = s.tables
  overview : s'.overview = s.overview
  history : s'.history = s.history
  historyLimit : s'.historyLimit = s.historyLimit

/-- No key touches the records. -/
theorem sameRecords_press (s : Session) (key : Key) : s.SameRecords (s.press key).1 := by
  have hchange := s.change_press key
  generalize (s.press key).1 = s' at hchange ⊢
  cases hchange <;> exact ⟨rfl, rfl, rfl, rfl⟩

theorem press_fst_of_ne_none {s : Session} {key : Key} (h : (s.press key).2 ≠ .none) :
    (s.press key).1 = s := by
  have hdone := s.done_press key
  generalize s.press key = done at hdone h ⊢
  cases hdone with
  | quit _ _ => rfl
  | screen _ => exact absurd rfl h
  | onLookup _ _ _ =>
      rcases s.pressOnLookup_cases key with
        ⟨-, hpress⟩ | ⟨-, ⟨text, -, hpress⟩ | ⟨-, action, hpress⟩⟩
      · exact absurd (congrArg Prod.snd hpress) h
      · exact absurd (congrArg Prod.snd hpress) h
      · rw [hpress]
  | onDistricts _ _ _ =>
      have hdone := s.doneOnDistricts key
      generalize s.pressOnDistricts key = done at hdone h ⊢
      cases hdone with
      | quit _ => rfl
      | _ => exact absurd rfl h

/-- Handling a key makes a lookup exactly where the key asks for one. -/
theorem handle_fst (s : Session) (time : ClockTime) (key : Key) :
    (s.handle time key).1 = if (s.press key).2 = .lookUp then (s.press key).1.recordLookup time
      else (s.press key).1 := by
  unfold handle
  split
  · next s' hpress =>
      rw [hpress]
      exact (if_pos rfl).symm
  · next s' action hnot hpress =>
      rw [hpress]
      exact (if_neg hnot).symm

end Session

end WastePass
