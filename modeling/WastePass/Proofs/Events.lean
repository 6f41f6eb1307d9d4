import Mathlib.Data.List.Forall2
import WastePass.Proofs.Histories
import WastePass.Proofs.Requests

/-!
# Events — the log tells how every lookup ended

    A lookup logs one event, whichever way it ends; a request that could not be read before
    it was to be resolved logs none.  Tables from a supply are logged when they have been
    found valid and again when they are in use.

    What a lookup logs can be read back although a pass number is written as it is: the text
    in front of it tells where it starts, and the last value, `true` or `false`, where it
    ends.
-/

namespace WastePass

/-! ## Texts that tell where they stop -/

namespace District

theorem name_injective : Function.Injective name := by
  intro d d'
  cases d <;> cases d' <;> decide

/-- The name of a district has no blank, so it ends where one follows. -/
theorem name_append_inj {d d' : District} {rest rest' : List Char}
    (h : d.name.toList ++ ' ' :: rest = d'.name.toList ++ ' ' :: rest') :
    d = d' ∧ rest = rest' := by
  have hname : ∀ (d : District) (rest : List Char),
      (d.name.toList ++ ' ' :: rest).takeWhile (· != ' ') = d.name.toList := by
    intro d rest
    cases d <;> rfl
  have hnames : d.name.toList = d'.name.toList := by
    rw [← hname d rest, h, hname]
  rw [hnames] at h
  exact ⟨name_injective (String.toList_inj.mp hnames),
    (List.cons.inj (List.append_cancel_left h)).2⟩

end District

/-- Where no text of a family ends as another does, the text that ends a list is told. -/
theorem eq_of_suffix {α : Type} {f : α → List Char}
    (hends : ∀ a b, f a <:+ f b → a = b) {a b : α} {whole : List Char}
    (ha : f a <:+ whole) (hb : f b <:+ whole) : a = b := by
  rcases List.suffix_or_suffix_of_suffix ha hb with hle | hle
  · exact hends a b hle
  · exact (hends b a hle).symm

/-! ## What an event says -/

namespace Event

/-- How the lookup ended that an event is about. -/
def outcome? : Event → Option Outcome
  | .rejected reason => some (.error (.invalid reason))
  | .noDistrict _ => some (.error (.notFound .district))
  | .noPassNumber _ _ => some (.error (.notFound .passNumber))
  | .resolved _ pass => some (.ok pass)
  | .opened _ | .validated _ _ _ | .loaded _ _ | .replaced => none

/-- The postal code that an event is about. -/
def code? : Event → Option PostalCode
  | .noDistrict code | .noPassNumber code _ | .resolved code _ => some code
  | _ => none

/-- The event says that a configuration has been found valid. -/
def isValidated : Event → Bool
  | .validated _ _ _ => true
  | _ => false

/-- The message of an event and its named values. -/
def saying (e : Event) : String :=
  e.message ++ String.join (e.fields.map fun (key, value) => " " ++ key ++ "=" ++ value)

theorem line_eq (e : Event) :
    e.line = e.level.name ++ " " ++ e.target ++ ": " ++ e.saying :=
  String.append_assoc

/-- The characters of a named value. -/
def fieldChars (field : String × String) : List Char :=
  ' ' :: (field.1 ++ "=").toList ++ field.2.toList

theorem toList_saying (e : Event) :
    e.saying.toList = e.message.toList ++ e.fields.flatMap fieldChars := by
  have hfield : ∀ field : String × String,
      (" " ++ field.1 ++ "=" ++ field.2).toList = fieldChars field := by
    intro field
    rw [String.append_assoc, String.append_assoc, String.toList_append, ← String.append_assoc,
      String.toList_append]
    rfl
  rw [saying, String.toList_append, String.toList_join, List.flatMap_map]
  exact congrArg _ (List.flatMap_congr fun field _ => hfield field)

/-! ## Reading an event back -/

/-- What is said begins as the message does. -/
theorem take_saying (e : Event) : e.saying.toList.take 4 = e.message.toList.take 4 := by
  have hlength : 4 ≤ e.message.toList.length := by
    cases e <;> simp [message]
  rw [toList_saying, List.take_append_of_le_length hlength]

/-- An event about a postal code names it first. -/
theorem fields_of_code {e : Event} {code : PostalCode} (h : e.code? = some code) :
    e.fields = ("postal_code", code.text) :: e.fields.tail := by
  cases e with
  | noDistrict _ | noPassNumber _ _ | resolved _ _ =>
      cases h
      rfl
  | _ => exact nomatch h

/-- Events with one message that say the same are about one postal code, and say the same
    behind it. -/
theorem code_eq_of_saying {e e' : Event} (hsaying : e.saying = e'.saying)
    (hmessage : e.message = e'.message) {code code' : PostalCode} (h : e.code? = some code)
    (h' : e'.code? = some code') :
    code = code' ∧ e.fields.tail.flatMap fieldChars = e'.fields.tail.flatMap fieldChars := by
  have hchars : e.message.toList ++ e.fields.flatMap fieldChars
      = e.message.toList ++ e'.fields.flatMap fieldChars := by
    rw [← toList_saying, hsaying, toList_saying, hmessage]
  have hfields := List.append_cancel_left hchars
  rw [fields_of_code h, fields_of_code h', List.flatMap_cons, List.flatMap_cons] at hfields
  -- The texts of codes are of one length, so what follows them starts at one place.
  have hlength : (fieldChars ("postal_code", code.text)).length
      = (fieldChars ("postal_code", code'.text)).length := by
    rw [fieldChars, fieldChars, List.length_append, List.length_append,
      PostalCode.length_text, PostalCode.length_text]
  obtain ⟨hcode, htail⟩ := List.append_inj hfields hlength
  have htext := String.toList_inj.mp (List.append_cancel_left hcode)
  exact ⟨PostalCode.text_injective htext, htail⟩

/-- The characters that say whether there is a container. -/
def flagChars (flag : Bool) : List Char :=
  fieldChars ("has_container", if flag then "true" else "false")

/-- Of the words `true` and `false` neither ends as the other, so the last value tells where
    it starts. -/
theorem flag_append_inj {text text' : List Char} {flag flag' : Bool}
    (h : text ++ flagChars flag = text' ++ flagChars flag') : text = text' ∧ flag = flag' := by
  have hflag : flag = flag' := by
    refine eq_of_suffix (f := flagChars) (by decide) (List.suffix_append text _) ?_
    rw [h]
    exact List.suffix_append text' _
  subst hflag
  exact ⟨List.append_cancel_right h, rfl⟩

/-- Behind the postal code stand the three values of a pass. -/
theorem chars_resolved (code : PostalCode) (d : District) (number : String) (flag : Bool) :
    (resolved code ⟨d, number, flag⟩).fields.tail.flatMap fieldChars
      = (' ' :: "district=".toList) ++ (d.name.toList ++ ' ' :: ("pass_number=".toList
          ++ (number.toList ++ flagChars flag))) := by
  simp [fields, flagChars, fieldChars]

/-- The values of a pass that stand behind the postal code tell the pass. -/
theorem pass_eq_of_chars {code code' : PostalCode} {pass pass' : Pass}
    (h : (resolved code pass).fields.tail.flatMap fieldChars
      = (resolved code' pass').fields.tail.flatMap fieldChars) : pass = pass' := by
  obtain ⟨d, number, flag⟩ := pass
  obtain ⟨d', number', flag'⟩ := pass'
  rw [chars_resolved, chars_resolved] at h
  -- The name stops at the blank behind it, and the number where the last value starts.
  obtain ⟨hd, hrest⟩ := District.name_append_inj (List.append_cancel_left h)
  obtain ⟨hnumber, hflag⟩ := flag_append_inj (List.append_cancel_left hrest)
  rw [hd, String.toList_inj.mp hnumber, hflag]

/-- What is wrong with a request is told by how its event ends. -/
theorem reason_eq_of_saying {reason reason' : ValidationError}
    (h : (rejected reason).saying = (rejected reason').saying) : reason = reason' := by
  have hends : ∀ a b : ValidationError, a.message.toList <:+ b.message.toList → a = b := by
    intro a b
    cases a <;> cases b <;> decide
  have hsuffix : ∀ reason : ValidationError,
      reason.message.toList <:+ (rejected reason).saying.toList := by
    intro reason
    refine ⟨(rejected reason).message.toList
      ++ fieldChars ("field", Text.quoted reason.field) ++ ' ' :: ("err" ++ "=").toList, ?_⟩
    rw [List.append_assoc, List.append_assoc, toList_saying]
    show _ = _ ++ (fieldChars ("field", Text.quoted reason.field)
      ++ (fieldChars ("err", reason.message) ++ []))
    rw [List.append_nil]
    rfl
  refine eq_of_suffix (f := fun reason => reason.message.toList) hends (hsuffix reason) ?_
  rw [h]
  exact hsuffix reason'

/-- Lookups that say the same have the same event. -/
theorem eq_of_saying {e e' : Event} (h : e.outcome?.isSome) (h' : e'.outcome?.isSome)
    (hsaying : e.saying = e'.saying) : e = e' := by
  -- The first four characters tell the messages apart.
  have hstart : e.message.toList.take 4 = e'.message.toList.take 4 := by
    rw [← take_saying, hsaying, take_saying]
  cases e with
  | rejected reason =>
      cases e' with
      | rejected reason' => rw [reason_eq_of_saying hsaying]
      | noDistrict _ | noPassNumber _ _ | resolved _ _ => exact absurd hstart (by simp [message])
      | _ => exact nomatch h'
  | noDistrict code =>
      cases e' with
      | noDistrict code' => rw [(code_eq_of_saying hsaying rfl rfl rfl).1]
      | rejected _ | noPassNumber _ _ | resolved _ _ => exact absurd hstart (by simp [message])
      | _ => exact nomatch h'
  | noPassNumber code d =>
      cases e' with
      | noPassNumber code' d' =>
          obtain ⟨hcode, htail⟩ := code_eq_of_saying hsaying rfl rfl rfl
          have hname : fieldChars ("district", d.name) ++ []
              = fieldChars ("district", d'.name) ++ [] := htail
          have hvalue := List.append_cancel_left (List.append_cancel_right hname)
          have hd := District.name_injective (String.toList_inj.mp hvalue)
          rw [hcode, hd]
      | rejected _ | noDistrict _ | resolved _ _ => exact absurd hstart (by simp [message])
      | _ => exact nomatch h'
  | resolved code pass =>
      cases e' with
      | resolved code' pass' =>
          obtain ⟨hcode, htail⟩ := code_eq_of_saying hsaying rfl rfl rfl
          rw [hcode, pass_eq_of_chars htail]
      | rejected _ | noDistrict _ | noPassNumber _ _ => exact absurd hstart (by simp [message])
      | _ => exact nomatch h'
  | _ => exact nomatch h

/-- The event tells that a lookup of these texts ended like this. -/
structure Tells (e : Event) (postalCode : String) (houseNumber : Option String)
    (outcome : Outcome) : Prop where
  outcome : e.outcome? = some outcome
  code : e.code? = (Request.parse postalCode houseNumber).toOption.map Request.postalCode
  level : e.level = .debug
  target : e.target = "afvalpas_core::service"
  line : e.line = "DEBUG afvalpas_core::service: " ++ e.saying

theorem tells_of_outcome {e : Event} {postalCode : String} {houseNumber : Option String}
    {outcome : Outcome} (houtcome : e.outcome? = some outcome)
    (hcode : (Request.parse postalCode houseNumber).toOption.map Request.postalCode = e.code?) :
    e.Tells postalCode houseNumber outcome := by
  have hwritten : e.level = .debug ∧ e.target = "afvalpas_core::service" := by
    cases e with
    | rejected _ | noDistrict _ | noPassNumber _ _ | resolved _ _ => exact ⟨rfl, rfl⟩
    | _ => exact nomatch houtcome
  refine ⟨houtcome, hcode.symm, hwritten.1, hwritten.2, ?_⟩
  rw [line_eq, hwritten.1, hwritten.2]
  rfl

/-- An event of a lookup tells nothing of tables. -/
theorem Tells.not_tables {e : Event} {postalCode : String} {houseNumber : Option String}
    {outcome : Outcome} (h : e.Tells postalCode houseNumber outcome) :
    e.isValidated = false ∧ e ≠ .replaced := by
  have houtcome := h.outcome
  cases e with
  | rejected _ | noDistrict _ | noPassNumber _ _ | resolved _ _ => exact ⟨rfl, nofun⟩
  | _ => exact nomatch houtcome

/-- The events of a service: lookups, and tables that are found valid or put in use. -/
structure OfService (e : Event) : Prop where
  kind : e.outcome?.isSome ∨ e.isValidated ∨ e = .replaced
  level : e.level.rank ≤ Level.debug.rank
  target : e.target = "afvalpas_core::service" ∨ e.target = "afvalpas_core::tables"

theorem ofService_replaced : OfService .replaced :=
  ⟨.inr (.inr rfl), by decide, .inl rfl⟩

theorem Tells.ofService {e : Event} {postalCode : String} {houseNumber : Option String}
    {outcome : Outcome} (h : e.Tells postalCode houseNumber outcome) : e.OfService := by
  refine ⟨.inl ?_, ?_, .inl h.target⟩
  · rw [h.outcome]
    rfl
  · rw [h.level]

/-- Events of lookups that say the same tell of one outcome and one postal code. -/
theorem Tells.eq_of_saying {e e' : Event} {postalCode postalCode' : String}
    {houseNumber houseNumber' : Option String} {outcome outcome' : Outcome}
    (h : e.Tells postalCode houseNumber outcome)
    (h' : e'.Tells postalCode' houseNumber' outcome') (hsaying : e.saying = e'.saying) :
    outcome = outcome' ∧
      (Request.parse postalCode houseNumber).toOption.map Request.postalCode
        = (Request.parse postalCode' houseNumber').toOption.map Request.postalCode := by
  have he : e = e' := by
    refine Event.eq_of_saying ?_ ?_ hsaying
    · rw [h.outcome]
      rfl
    · rw [h'.outcome]
      rfl
  subst he
  exact ⟨Option.some.inj (h.outcome.symm.trans h'.outcome), h.code.symm.trans h'.code⟩

end Event

/-! ## What is logged at a lookup -/

namespace Tables

variable (t : Tables) {postalCode : String} {houseNumber : Option String}

/-- What is logged when a request is answered tells the answer. -/
theorem tells_resolveEvent {request : Request}
    (h : Request.parse postalCode houseNumber = .ok request) :
    (t.resolveEvent request).Tells postalCode houseNumber (t.resolve request) := by
  have hcode : (Request.parse postalCode houseNumber).toOption.map Request.postalCode
      = some request.postalCode := by
    rw [h]
    rfl
  cases hdistrict : t.districtFor request.postalCode with
  | none =>
      rw [resolve_of_no_district hdistrict, resolveEvent, hdistrict]
      exact Event.tells_of_outcome rfl hcode
  | some d =>
      cases hnumber : t.passNumberFor d with
      | none =>
          rw [resolve_of_no_passNumber hdistrict hnumber, resolveEvent, hdistrict]
          simp only [hnumber]
          exact Event.tells_of_outcome rfl hcode
      | some number =>
          rw [resolve_of_passNumber hdistrict hnumber, resolveEvent, hdistrict]
          simp only [hnumber]
          exact Event.tells_of_outcome rfl hcode

/-- What is logged at a lookup tells how it ends. -/
theorem tells_lookUpEvent (postalCode : String) (houseNumber : Option String) :
    (t.lookUpEvent postalCode houseNumber).Tells postalCode houseNumber
      (t.lookUp postalCode houseNumber) := by
  rw [lookUpEvent, lookUp]
  cases h : Request.parse postalCode houseNumber with
  | error reason =>
      refine Event.tells_of_outcome rfl ?_
      rw [h]
      rfl
  | ok request => exact t.tells_resolveEvent h

end Tables

/-! ## What is logged when tables are put in use -/

namespace Supply

/-- The draft that a supply gives, if it can be read. -/
def draft? : Supply → Option Draft
  | .amsterdam => some Amsterdam.draft
  | .document text => (Tables.Document.parse text).toOption.bind fun doc => doc.draft.toOption
  | .calls list => some (Draft.ofCalls list)

/-- The tables that the draft of a supply becomes, if it is valid. -/
def built? (supply : Supply) : Option Tables :=
  supply.draft?.bind fun draft => draft.build.toOption

theorem toOption_mapError {ε δ α : Type} (f : ε → δ) (x : Except ε α) :
    (x.mapError f).toOption = x.toOption := by
  cases x <;> rfl

/-- A supply gives the tables that are built for it. -/
theorem toOption_tables (supply : Supply) : supply.tables.toOption = supply.built? := by
  cases supply with
  | amsterdam =>
      exact toOption_mapError (SupplyError.document ∘ Tables.DocumentError.inconsistent)
        Amsterdam.draft.build
  | calls list => exact toOption_mapError _ (Tables.ofCalls list)
  | document text =>
      have hbuild : (Tables.ofDocument text).toOption
          = (Tables.Document.parse text).toOption.bind fun doc =>
              (doc.draft >>= Draft.build).toOption := by
        rw [Tables.ofDocument]
        cases Tables.Document.parse text with
        | error e => rfl
        | ok doc =>
            simp only [Except.toOption, Option.bind_some]
            cases doc.draft >>= Draft.build <;> rfl
      refine (toOption_mapError _ (Tables.ofDocument text)).trans ?_
      rw [hbuild, built?, draft?, Option.bind_assoc]
      congr 1
      funext doc
      cases doc.draft <;> rfl

end Supply

namespace Service

/-- A lookup reaches the tables, or is rejected on its way to them. -/
def Step.asks : Step → Bool
  | .lookUp _ _ => true
  | .resolve postalCode houseNumber => (Request.parse postalCode houseNumber).toBool
  | _ => false

/-- A draft becomes tables. -/
def Step.builds : Step → Bool
  | .replace supply => supply.built?.isSome
  | _ => false

/-- Tables are looked at or kept aside. -/
def Step.Looks : Step → Prop
  | .overview | .keep | .dump _ | .inspect _ _ | .compare _ _ => True
  | .lookUp _ _ | .resolve _ _ | .replace _ | .restore _ => False

/-- What a step logs, by its answer. -/
inductive Logs : Step → Answer → List Event → Prop where
  | lookUp {postalCode houseNumber outcome event}
      (told : event.Tells postalCode houseNumber outcome) :
      Logs (.lookUp postalCode houseNumber) (.outcome outcome) [event]
  | resolve {postalCode houseNumber outcome event request}
      (read : Request.parse postalCode houseNumber = .ok request)
      (told : event.Tells postalCode houseNumber outcome) :
      Logs (.resolve postalCode houseNumber) (.outcome outcome) [event]
  | unread {postalCode houseNumber reason}
      (unread : Request.parse postalCode houseNumber = .error reason) :
      Logs (.resolve postalCode houseNumber) (.outcome (.error (.invalid reason))) []
  | replaced {supply t} (built : supply.built? = some t) :
      Logs (.replace supply) .replaced [t.validatedEvent, .replaced]
  | refused {supply e} (unbuilt : supply.built? = none) :
      Logs (.replace supply) (.refused e) []
  | restored {index} : Logs (.restore index) .replaced [.replaced]
  | unknown {index} : Logs (.restore index) .unknownIndex []
  | looked {step answer} (looks : step.Looks) (unchanged : answer ≠ .replaced) :
      Logs step answer []

/-- Every step logs what its answer tells. -/
theorem logs_step (s : Service) (step : Step) : Logs step (s.answer step) (s.events step) := by
  cases step with
  | lookUp postalCode houseNumber =>
      exact .lookUp (s.tables.tells_lookUpEvent postalCode houseNumber)
  | resolve postalCode houseNumber =>
      rw [answer, events, Tables.lookUp]
      cases h : Request.parse postalCode houseNumber with
      | error reason => exact .unread h
      | ok request => exact .resolve h (s.tables.tells_resolveEvent h)
  | replace supply =>
      have hbuilt := supply.toOption_tables
      rw [answer, events]
      cases h : supply.tables with
      | error e =>
          rw [h] at hbuilt
          exact .refused hbuilt.symm
      | ok t =>
          rw [h] at hbuilt
          exact .replaced hbuilt.symm
  | restore index =>
      rw [answer, events]
      cases s.kept[index]? with
      | none => exact .unknown
      | some t => exact .restored
  | overview =>
      refine .looked trivial fun h => ?_
      cases h
  | keep =>
      refine .looked trivial fun h => ?_
      cases h
  | dump index =>
      refine .looked trivial ?_
      rw [answer]
      cases s.kept[index]? <;> simp
  | inspect index postalCode =>
      refine .looked trivial ?_
      rw [answer]
      cases s.kept[index]? <;> cases PostalCode.parse postalCode <;> simp
  | compare a b =>
      refine .looked trivial ?_
      rw [answer]
      cases s.kept[a]? <;> cases s.kept[b]? <;> simp

/-- Every run logs what its answers tell, step by step. -/
theorem logs_run (s : Service) (steps : List Step) :
    List.Forall₂ (fun step entry => Logs step entry.1 entry.2) steps (s.run steps) := by
  induction steps generalizing s with
  | nil => exact .nil
  | cons step steps ih => exact .cons (logs_step s step) (ih _)

/-- What a run answers and logs at once is of one of its steps. -/
theorem exists_logs_of_mem {s : Service} {steps : List Step} {entry : Answer × List Event}
    (h : entry ∈ s.run steps) : ∃ step ∈ steps, Logs step entry.1 entry.2 := by
  induction steps generalizing s with
  | nil => exact nomatch h
  | cons step steps ih =>
      rcases List.mem_cons.mp h with rfl | h
      · exact ⟨step, List.mem_cons_self, logs_step s step⟩
      · obtain ⟨later, hlater, hlogs⟩ := ih h
        exact ⟨later, List.mem_cons_of_mem step hlater, hlogs⟩

/-! ## Counting events -/

/-- The events of a run. -/
def log (s : Service) (steps : List Step) : List Event :=
  (s.run steps).flatMap Prod.snd

/-- Where each entry holds one event of a kind or none, there are as many events as entries
    that hold one. -/
theorem countP_flatMap {α β γ : Type} {f : β → List γ} {p : γ → Bool} {holds : α → Bool}
    {as : List α} {bs : List β}
    (h : List.Forall₂ (fun a b => (f b).countP p = if holds a then 1 else 0) as bs) :
    (bs.flatMap f).countP p = as.countP holds := by
  induction h with
  | nil => rfl
  | cons hhead _ ih =>
      rw [List.flatMap_cons, List.countP_append, hhead, ih, List.countP_cons, Nat.add_comm]

variable {step : Step} {answer : Answer} {events : List Event}

/-- A step that asks logs one event of a lookup, and no other does. -/
theorem Logs.countP_lookUps (h : Logs step answer events) :
    events.countP (fun e => e.outcome?.isSome) = if step.asks then 1 else 0 := by
  cases h with
  | lookUp told => rw [List.countP_singleton, told.outcome]; rfl
  | resolve read told => rw [List.countP_singleton, told.outcome, Step.asks, read]; rfl
  | unread unread => rw [Step.asks, unread]; rfl
  | looked looks _ => cases step <;> first | rfl | exact looks.elim
  | _ => rfl

/-- A step that builds tables logs that they are valid, and no other does. -/
theorem Logs.countP_validated (h : Logs step answer events) :
    events.countP Event.isValidated = if step.builds then 1 else 0 := by
  cases h with
  | lookUp told => rw [List.countP_singleton, told.not_tables.1]; rfl
  | resolve _ told => rw [List.countP_singleton, told.not_tables.1]; rfl
  | replaced built => rw [Step.builds, built]; rfl
  | refused unbuilt => rw [Step.builds, unbuilt]; rfl
  | looked looks _ => cases step <;> first | rfl | exact looks.elim
  | _ => rfl

/-- A step that puts tables in use logs that too, and no other does. -/
theorem Logs.countP_replaced (h : Logs step answer events) :
    events.countP (· = .replaced) = if decide (answer = .replaced) then 1 else 0 := by
  cases h with
  | lookUp told => rw [List.countP_singleton, decide_eq_false told.not_tables.2]; rfl
  | resolve _ told => rw [List.countP_singleton, decide_eq_false told.not_tables.2]; rfl
  | looked _ unchanged => rw [decide_eq_false unchanged]; rfl
  | _ => rfl

/-- A step logs nothing else. -/
theorem Logs.ofService (h : Logs step answer events) : ∀ e ∈ events, e.OfService := by
  intro e he
  cases h with
  | lookUp told => exact List.mem_singleton.mp he ▸ told.ofService
  | resolve _ told => exact List.mem_singleton.mp he ▸ told.ofService
  | replaced _ =>
      rcases List.mem_cons.mp he with rfl | he
      · exact ⟨.inr (.inl rfl), Nat.le_refl _, .inr rfl⟩
      · exact List.mem_singleton.mp he ▸ Event.ofService_replaced
  | restored => exact List.mem_singleton.mp he ▸ Event.ofService_replaced
  | _ => exact nomatch he

/-- What the log of a run holds: an event for each lookup that is not turned away before it is
    asked for, for each draft that becomes tables and for each time that tables are put in
    use, and no others. -/
structure LogTells (s : Service) (steps : List Step) : Prop where
  each : List.Forall₂ (fun step entry => Logs step entry.1 entry.2) steps (s.run steps)
  lookUps : (s.log steps).countP (fun e => e.outcome?.isSome) = steps.countP Step.asks
  validated : (s.log steps).countP Event.isValidated = steps.countP Step.builds
  replaced : (s.log steps).countP (· = .replaced)
    = (s.run steps).countP fun entry => entry.1 = .replaced
  others : ∀ e ∈ s.log steps, e.OfService

/-- Every log tells what was done. -/
theorem logTells (s : Service) (steps : List Step) : LogTells s steps := by
  have hrun := logs_run s steps
  refine { each := hrun, lookUps := ?_, validated := ?_, replaced := ?_, others := ?_ }
  · exact countP_flatMap (hrun.imp fun _ _ h => h.countP_lookUps)
  · exact countP_flatMap (hrun.imp fun _ _ h => h.countP_validated)
  · refine countP_flatMap (List.forall₂_same.mpr fun entry hentry => ?_)
    obtain ⟨_, -, h⟩ := exists_logs_of_mem hentry
    exact h.countP_replaced
  · intro e he
    obtain ⟨entry, hentry, he⟩ := List.mem_flatMap.mp he
    obtain ⟨_, -, h⟩ := exists_logs_of_mem hentry
    exact h.ofService e he

/-- **A log has one event for each lookup, and tells how it ended**: for every run, and for
    any two lookups that are logged with one text. -/
theorem lookUps_logged_once_and_told :
    (∀ (s : Service) (steps : List Step), LogTells s steps) ∧
    ∀ (t u : Tables) (postalCode otherCode : String) (houseNumber otherNumber : Option String),
      (t.lookUpEvent postalCode houseNumber).saying
          = (u.lookUpEvent otherCode otherNumber).saying →
        t.lookUp postalCode houseNumber = u.lookUp otherCode otherNumber ∧
        ∀ request, Request.parse postalCode houseNumber = .ok request →
          ∃ other, Request.parse otherCode otherNumber = .ok other ∧
            other.postalCode = request.postalCode := by
  -- Both events tell of their lookups, and events that say the same tell the same.
  refine ⟨logTells, fun t u postalCode otherCode houseNumber otherNumber hsaying => ?_⟩
  obtain ⟨houtcome, hcode⟩ := (t.tells_lookUpEvent postalCode houseNumber).eq_of_saying
    (u.tells_lookUpEvent otherCode otherNumber) hsaying
  refine ⟨houtcome, fun request hrequest => ?_⟩
  rw [hrequest] at hcode
  cases hother : Request.parse otherCode otherNumber with
  | error reason =>
      rw [hother] at hcode
      exact nomatch hcode
  | ok other =>
      rw [hother] at hcode
      exact ⟨other, rfl, (Option.some.inj hcode).symm⟩

/-- A refused replacement and a request that could not be read log nothing, and a pass number
    that looks like a field is told from the field. -/
theorem lookUps_logged_once_and_told_of_lookalike :
    let ranges : List DistrictRanges := [⟨.oost, [⟨1000, 1099, by decide⟩]⟩]
    let t : Tables := ⟨ranges, [(.oost, "7 has_container=false")], []⟩
    let u : Tables := ⟨ranges, [(.oost, "7")], [⟨⟨1000, 1099, by decide⟩, []⟩]⟩
    (log ⟨t, []⟩ [.keep, .resolve "10" none, .replace (.calls [.passNumber .oost " "]),
        .lookUp "10" none, .restore 0, .resolve " 1050\tab" (some "1")]).countP
      (fun e => e.outcome?.isSome) = 2 ∧
    t.lookUp "1050ab" none
      = (⟨ranges ++ ranges, t.passNumbers, []⟩ : Tables).lookUp " 1050\tAB" (some "12") ∧
    (t.lookUpEvent "1050ab" none).saying ≠ (u.lookUpEvent "1050ab" none).saying := by
  intro ranges t u
  obtain ⟨hlogged, htold⟩ := lookUps_logged_once_and_told
  refine ⟨(hlogged _ _).lookUps.trans (by rfl), ?_, fun hsaying => ?_⟩
  · exact (htold t ⟨ranges ++ ranges, t.passNumbers, []⟩ _ _ _ _ (by rfl)).1
  · exact absurd (htold t u _ _ _ _ hsaying).1 (by decide)

end Service

end WastePass
