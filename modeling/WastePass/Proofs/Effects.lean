import WastePass.Proofs.Keys

/-!
# Effects — every key does at most one thing

    A key leaves the session as it is, or it changes one part of it: the screen, the
    focus, the text of the field in focus or the selection (`change_press`).  Which of
    these it can be is told by the screen and the focus.  A key that asks for something
    changes nothing, and which keys ask is told by code, modifiers and screen
    (`press_snd`).
-/

namespace WastePass.Session

namespace Change

variable {s s' : Session}

theorem other_text (h : s.Change s') :
    (s.focus = .houseNumber → s'.postalCode = s.postalCode) ∧
      (s.focus = .postalCode → s'.houseNumber = s.houseNumber) := by
  cases h with
  | postalCode text hscreen hfocus =>
      refine ⟨fun hother => ?_, fun _ => rfl⟩
      exact nomatch hfocus.symm.trans hother
  | houseNumber text hscreen hfocus =>
      refine ⟨fun _ => rfl, fun hother => ?_⟩
      exact nomatch hfocus.symm.trans hother
  | _ => exact ⟨fun _ => rfl, fun _ => rfl⟩

theorem on_districts (h : s.Change s') (hdistricts : s.screen = .districts) :
    s'.postalCode = s.postalCode ∧ s'.houseNumber = s.houseNumber ∧ s'.focus = s.focus := by
  cases h with
  | focus _ hscreen => exact nomatch hdistricts.symm.trans hscreen
  | postalCode _ hscreen _ => exact nomatch hdistricts.symm.trans hscreen
  | houseNumber _ hscreen _ => exact nomatch hdistricts.symm.trans hscreen
  | _ => exact ⟨rfl, rfl, rfl⟩

theorem on_lookup (h : s.Change s') (hlookup : s.screen = .lookup) :
    s'.selected = s.selected := by
  cases h with
  | selected _ hscreen => exact nomatch hlookup.symm.trans hscreen
  | _ => rfl

end Change

/-! ## What is asked for -/

theorem pressOnLookup_snd (s : Session) (key : Key) :
    (s.pressOnLookup key).2 = if key.code = .enter then .lookUp else .none := by
  obtain ⟨code, modifiers⟩ := key
  cases code with
  | char c =>
      cases hmodified : modifiers.control || modifiers.alt <;> simp [pressOnLookup, hmodified]
  | _ => rfl

theorem pressOnDistricts_snd (s : Session) (key : Key) :
    (s.pressOnDistricts key).2 = if key.code = .char 'q' then .quit else .none := by
  have hdone := s.doneOnDistricts key
  generalize s.pressOnDistricts key = done at hdone ⊢
  cases hdone with
  | quit hcode => exact (if_pos hcode).symm
  | above hcode => exact (if_neg (by grind)).symm
  | below hcode => exact (if_neg (by grind)).symm
  | back hcode => exact (if_neg (by grind)).symm
  | ignored _ _ hquit => exact (if_neg hquit).symm

/-- What a key asks for. -/
theorem press_snd (s : Session) (key : Key) :
    (s.press key).2 =
      if (key.code = .char 'c' ∧ key.modifiers.control = true) ∨
          (s.screen = .districts ∧ key.code = .char 'q') then .quit
      else if s.screen = .lookup ∧ key.code = .enter then .lookUp
      else .none := by
  have hdone := s.done_press key
  generalize s.press key = done at hdone ⊢
  cases hdone with
  | quit hcode hcontrol => exact (if_pos (Or.inl ⟨hcode, hcontrol⟩)).symm
  | screen hcode => simp [hcode]
  | onLookup hscreen _ hquit => simp [pressOnLookup_snd, hscreen, hquit]
  | onDistricts hscreen _ hquit => simp [pressOnDistricts_snd, hscreen, hquit]

/-- What one key does, and what it leaves alone.  At most one part of the session is another,
    and none if the key asks for something. -/
structure OneEffect (s : Session) (key : Key) : Prop where
  change : s.Change (s.press key).1
  asks : (s.press key).2 ≠ .none → (s.press key).1 = s
  quit : (s.press key).2 = .quit ↔
    (key.code = .char 'c' ∧ key.modifiers.control = true) ∨
      (s.screen = .districts ∧ key.code = .char 'q')
  lookUp : (s.press key).2 = .lookUp ↔ s.screen = .lookup ∧ key.code = .enter
  otherText : (s.focus = .houseNumber → (s.press key).1.postalCode = s.postalCode) ∧
    (s.focus = .postalCode → (s.press key).1.houseNumber = s.houseNumber)
  records : s.SameRecords (s.press key).1
  onDistricts : s.screen = .districts →
    (s.press key).1.postalCode = s.postalCode ∧ (s.press key).1.houseNumber = s.houseNumber ∧
      (s.press key).1.focus = s.focus
  onLookup : s.screen = .lookup → (s.press key).1.selected = s.selected

/-- **Every key does at most one thing**, in every state and with any modifiers. -/
theorem key_does_one_thing (s : Session) (key : Key) : s.OneEffect key := by
  have hchange := s.change_press key
  have hasks := s.press_snd key
  refine
    { change := hchange, asks := press_fst_of_ne_none, quit := ?_, lookUp := ?_,
      otherText := hchange.other_text, records := s.sameRecords_press key,
      onDistricts := hchange.on_districts, onLookup := hchange.on_lookup }
  · rw [hasks]
    split
    · next hquit => exact ⟨fun _ => hquit, fun _ => rfl⟩
    · next hstays => split <;> simp [hstays]
  · rw [hasks]
    split
    · next hquit =>
      refine ⟨fun h => (nomatch h), fun ⟨_, henter⟩ => ?_⟩
      rw [henter] at hquit
      simp at hquit
    · split
      · next hlookUp => exact ⟨fun _ => hlookUp, fun _ => rfl⟩
      · next hnothing => exact ⟨fun h => (nomatch h), fun h => absurd h hnothing⟩

end WastePass.Session
