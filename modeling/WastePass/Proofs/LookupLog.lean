import WastePass.Proofs.Keys
import WastePass.Proofs.Settings

/-!
# The log of lookups — the history is its newest part

    The log has one entry for each key that asked for a lookup, the latest first, and is
    never cut.  An entry is told by the moment of its key: the texts that the fields held
    and the tables that were put in use last.  `history_tells_log` says of every run that
    the history is the front of that log, as long as the settings allow.
-/

namespace WastePass

/-- The settings of an environment keep at least one lookup, and at most a thousand. -/
theorem Config.historyLimit_mem {env : Environment} {config : Config}
    (h : ofEnvironment env = .ok config) :
    1 ≤ config.historyLimit ∧ config.historyLimit ≤ maxHistory :=
  (historyLimit_of_ok h).1

namespace Session

/-! ## What a run tells about its lookups -/

/-- The session that turns have led to, the latest turn first. -/
def reached (t₀ : Tables) (limit : Nat) (past : List Turn) : Session :=
  (start t₀ limit).run past.reverse

/-- A turn asks for a lookup when it is a key whose action is one. -/
def asks (s : Session) : Turn → Bool
  | .key _ key => (s.press key).2 = .lookUp
  | .tables _ => false

/-- The tables that turns have put in use last, or those of the beginning. -/
def installed (t₀ : Tables) : List Turn → Tables
  | [] => t₀
  | .tables t :: _ => t
  | .key _ _ :: past => installed t₀ past

/-- The moments at which a lookup was asked for, the latest first: the time of the key, and
    the turns before it. -/
def askedAt (t₀ : Tables) (limit : Nat) : List Turn → List (ClockTime × List Turn)
  | [] => []
  | .tables _ :: past => askedAt t₀ limit past
  | .key time key :: past =>
      if (reached t₀ limit past).asks (.key time key) then (time, past) :: askedAt t₀ limit past
      else askedAt t₀ limit past

/-- The house number that a text gives: none if it is blank. -/
def givenNumber (text : String) : Option String :=
  if Text.allBlank text then none else some (Text.trimmed text)

theorem givenHouseNumber_eq (s : Session) :
    s.givenHouseNumber = givenNumber s.houseNumber :=
  if_congr ((Text.trimmed_eq_empty_iff s.houseNumber).trans (Text.allBlank_iff_white _).symm)
    rfl rfl

/-- The entry of the log for a moment. -/
def entry (t₀ : Tables) (limit : Nat) (moment : ClockTime × List Turn) : LookupRecord :=
  let s := reached t₀ limit moment.2
  { time := moment.1
    postalCode := Text.trimmed s.postalCode
    houseNumber := givenNumber s.houseNumber
    outcome := (installed t₀ moment.2).lookUp (Text.trimmed s.postalCode)
      (givenNumber s.houseNumber) }

/-- All lookups that were ever made, the latest first. -/
def log (t₀ : Tables) (limit : Nat) (past : List Turn) : List LookupRecord :=
  (askedAt t₀ limit past).map (entry t₀ limit)

/-! ## One turn -/

/-- One turn more. -/
theorem reached_cons (t₀ : Tables) (limit : Nat) (turn : Turn) (past : List Turn) :
    reached t₀ limit (turn :: past) = (reached t₀ limit past).after turn := by
  unfold reached run
  rw [List.reverse_cons, List.foldl_append]
  rfl

/-- A turn puts its own tables in use or none, and never moves the limit. -/
theorem after_tables_limit (s : Session) (turn : Turn) :
    (s.after turn).tables = (match turn with
      | .tables t => t
      | .key _ _ => s.tables) ∧
    (s.after turn).historyLimit = s.historyLimit := by
  cases turn with
  | tables t => exact ⟨rfl, rfl⟩
  | key time key =>
      have hrecords := s.sameRecords_press key
      show (s.handle time key).1.tables = s.tables ∧ (s.handle time key).1.historyLimit = _
      rw [handle_fst]
      split <;> exact ⟨hrecords.tables, hrecords.historyLimit⟩

/-- A turn that asks for a lookup puts its record in front of the history, and cuts it. -/
theorem history_after_of_asks {s : Session} {time : ClockTime} {key : Key}
    (h : s.asks (.key time key) = true) :
    (s.after (.key time key)).history
      = (s.lookupRecord time :: s.history).take s.historyLimit := by
  have haction : (s.press key).2 = .lookUp := of_decide_eq_true h
  have hsame : (s.press key).1 = s := press_fst_of_ne_none (by rw [haction]; exact nofun)
  show (s.handle time key).1.history = _
  rw [handle_fst, if_pos haction, hsame]
  rfl

/-- Any other turn leaves the history. -/
theorem history_after_of_not_asks {s : Session} {turn : Turn} (h : s.asks turn = false) :
    (s.after turn).history = s.history := by
  cases turn with
  | tables t => rfl
  | key time key =>
      have haction : ¬ (s.press key).2 = .lookUp := of_decide_eq_false h
      show (s.handle time key).1.history = _
      rw [handle_fst, if_neg haction]
      exact (s.sameRecords_press key).history

/-! ## Runs -/

/-- In use are the tables put in use last, and the limit is that of the beginning. -/
theorem tables_reached (t₀ : Tables) (limit : Nat) (past : List Turn) :
    (reached t₀ limit past).tables = installed t₀ past ∧
      (reached t₀ limit past).historyLimit = limit := by
  induction past with
  | nil => exact ⟨rfl, rfl⟩
  | cons turn past ih =>
      obtain ⟨htables, hlimit⟩ := (reached t₀ limit past).after_tables_limit turn
      rw [reached_cons, htables, hlimit]
      cases turn with
      | tables t => exact ⟨rfl, ih.2⟩
      | key time key => exact ih

/-- The record of a lookup is its entry in the log. -/
theorem lookupRecord_reached (t₀ : Tables) (limit : Nat) (time : ClockTime) (past : List Turn) :
    (reached t₀ limit past).lookupRecord time = entry t₀ limit (time, past) := by
  unfold lookupRecord entry
  rw [givenHouseNumber_eq, (tables_reached t₀ limit past).1]

/-- A list that was cut can be cut again with one more in front. -/
theorem take_cons_take {α : Type} (n : Nat) (x : α) (l : List α) :
    (x :: l.take n).take n = (x :: l).take n := by
  cases n with
  | zero => rfl
  | succ n =>
      rw [List.take_succ_cons, List.take_succ_cons, List.take_take, Nat.min_eq_left n.le_succ]

/-- The history is the front of the log. -/
theorem history_reached (t₀ : Tables) (limit : Nat) (past : List Turn) :
    (reached t₀ limit past).history = (log t₀ limit past).take limit := by
  -- On the turns: what was cut off earlier would be cut off now, so cutting a history is
  -- cutting the log.
  induction past with
  | nil => exact List.take_nil.symm
  | cons turn past ih =>
      rw [reached_cons]
      cases hasks : (reached t₀ limit past).asks turn with
      | false =>
          rw [history_after_of_not_asks hasks, ih]
          cases turn with
          | tables t => rfl
          | key time key => rw [log, log, askedAt, hasks]; rfl
      | true =>
          cases turn with
          | tables t => exact nomatch hasks
          | key time key =>
              rw [history_after_of_asks hasks, (tables_reached t₀ limit past).2, ih,
                lookupRecord_reached, take_cons_take, log, log, askedAt, if_pos hasks,
                List.map_cons]

/-- Later turns only add to the log, at its front. -/
theorem log_suffix (t₀ : Tables) (limit : Nat) (later past : List Turn) :
    log t₀ limit past <:+ log t₀ limit (later ++ past) := by
  induction later with
  | nil => exact List.suffix_refl _
  | cons turn later ih =>
      cases turn with
      | tables t => exact ih
      | key time key =>
          rw [log, log, List.cons_append, askedAt]
          split
          · exact ih.trans (List.suffix_cons _ _)
          · exact ih

/-- What the history of a run says of its lookups, when these turns have been taken: it is the
    front of a log of all of them, in which nothing changes later. -/
structure HistoryTells (t₀ : Tables) (limit : Nat) (turns : List Turn) : Prop where
  history : ((start t₀ limit).run turns).history = (log t₀ limit turns.reverse).take limit
  length : ((start t₀ limit).run turns).history.length
    = min (askedAt t₀ limit turns.reverse).length limit
  newest : ((start t₀ limit).run turns).lastLookup = (log t₀ limit turns.reverse).head?
  lasting : ∀ later, log t₀ limit turns.reverse <:+ log t₀ limit (turns ++ later).reverse
  asked : ∀ time key, ((start t₀ limit).run turns).asks (.key time key) = true →
    ((start t₀ limit).run (turns ++ [.key time key])).history
      = (entry t₀ limit (time, turns.reverse) :: ((start t₀ limit).run turns).history).take limit
  frame : ∀ turn, ((start t₀ limit).run turns).asks turn = false →
    ((start t₀ limit).run (turns ++ [turn])).history = ((start t₀ limit).run turns).history

/-- **The history is the newest part of the log of all lookups**, after any run and for any
    limit that the settings allow. -/
theorem history_tells_log {env : Environment} {config : Config}
    (h : Config.ofEnvironment env = .ok config) (t₀ : Tables) (turns : List Turn) :
    HistoryTells t₀ config.historyLimit turns := by
  obtain ⟨hpos, -⟩ := Config.historyLimit_mem h
  generalize config.historyLimit = limit at hpos ⊢
  have hrun : (start t₀ limit).run turns = reached t₀ limit turns.reverse := by
    rw [reached, List.reverse_reverse]
  have hafter : ∀ turn, (start t₀ limit).run (turns ++ [turn])
      = (reached t₀ limit turns.reverse).after turn := by
    intro turn
    rw [← hrun]
    exact List.foldl_append ..
  have hhistory := history_reached t₀ limit turns.reverse
  refine
    { history := ?_, length := ?_, newest := ?_, lasting := ?_, asked := ?_, frame := ?_ }
  · rw [hrun, hhistory]
  · rw [hrun, hhistory, List.length_take, log, List.length_map, Nat.min_comm]
  · rw [hrun, lastLookup, hhistory, List.head?_take, if_neg (Nat.ne_of_gt hpos)]
  · intro later
    rw [List.reverse_append]
    exact log_suffix t₀ limit later.reverse turns.reverse
  · intro time key hasks
    rw [hrun] at hasks ⊢
    rw [hafter, history_after_of_asks hasks, lookupRecord_reached,
      (tables_reached t₀ limit turns.reverse).2]
  · intro turn hasks
    rw [hrun] at hasks ⊢
    rw [hafter, history_after_of_not_asks hasks]

/-- Of three lookups two are kept, each with what the fields and the tables were when it was
    made: the district was configured after the first. -/
theorem history_tells_log_of_three :
    Config.ofEnvironment [("AFVALPAS_HISTORY", " 2")] = .ok ⟨.embedded, none, "info", 2⟩ ∧
    ((start ⟨[], [], []⟩ 2).run
        ("1050ab".toList.map (fun c => .key ⟨12, 0, 0⟩ (Key.ofChar c)) ++
          [.key ⟨12, 0, 1⟩ ⟨.enter, {}⟩, .tables ⟨[⟨.oost, [⟨1000, 1099, by decide⟩]⟩], [], []⟩,
            .key ⟨12, 0, 2⟩ ⟨.enter, {}⟩, .key ⟨12, 0, 3⟩ ⟨.tab, {}⟩,
            .key ⟨12, 0, 4⟩ (Key.ofChar ' '), .key ⟨12, 0, 5⟩ (Key.ofChar 'x'),
            .key ⟨12, 0, 6⟩ ⟨.enter, {}⟩])).history
      = [⟨⟨12, 0, 6⟩, "1050ab", some "x", .error (.invalid .houseNumber)⟩,
          ⟨⟨12, 0, 2⟩, "1050ab", none, .error (.notFound .passNumber)⟩] := by
  have h : Config.ofEnvironment [("AFVALPAS_HISTORY", " 2")]
      = .ok ⟨.embedded, none, "info", 2⟩ := by
    rfl
  exact ⟨h, (history_tells_log h _ _).history.trans (by rfl)⟩

end Session

end WastePass
