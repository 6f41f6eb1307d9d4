import WastePass.Service
import WastePass.Proofs.Consistency

/-!
# Histories — what a service answers is told by what it was asked before

    A history lists the steps that were taken, the latest first.  `keptAt` finds the
    moments at which tables were kept aside and `inUse` the tables that were put in use
    last; a restoration leads back to the moment whose tables it restores.  Neither
    follows a state.  `run_follows_history` says of every run, at each of its steps, that
    the service is what its history tells.
-/

namespace WastePass

/-- Another kind of error makes no tables. -/
theorem mapError_eq_ok_iff {ε δ α : Type} {f : ε → δ} {x : Except ε α} {a : α} :
    x.mapError f = .ok a ↔ x = .ok a := by
  cases x <;> simp [Except.mapError]

/-- The tables of a document are built from a draft. -/
theorem Tables.exists_build_of_ofDocument {text : String} {t : Tables}
    (h : Tables.ofDocument text = .ok t) : ∃ draft : Draft, draft.build = .ok t := by
  unfold Tables.ofDocument at h
  split at h
  · exact nomatch h
  · rename_i doc _
    cases hdraft : doc.draft with
    | error f =>
        rw [hdraft] at h
        exact nomatch h
    | ok draft =>
        refine ⟨draft, ?_⟩
        have hbind : (Except.ok draft >>= Draft.build) = draft.build := rfl
        simp only [hdraft, hbind] at h
        cases hbuild : draft.build with
        | error f =>
            simp only [hbuild] at h
            cases h
        | ok u =>
            simp only [hbuild] at h
            cases h
            rfl

/-- The tables of a supply are valid. -/
theorem Supply.valid_of_tables {supply : Supply} {t : Tables} (h : supply.tables = .ok t) :
    t.Valid := by
  cases supply with
  | amsterdam =>
      have hbuild : Amsterdam.tables = .ok t :=
        (mapError_eq_ok_iff (f := SupplyError.document ∘ Tables.DocumentError.inconsistent)).mp h
      exact Tables.valid_of_build hbuild
  | document text =>
      obtain ⟨draft, hbuild⟩ :=
        Tables.exists_build_of_ofDocument (mapError_eq_ok_iff.mp h)
      exact Tables.valid_of_build hbuild
  | calls calls =>
      have hbuild : Tables.ofCalls calls = .ok t := mapError_eq_ok_iff.mp h
      exact Tables.valid_of_build hbuild

namespace Service

/-! ## What a history tells -/

/-- The moments at which tables were kept aside, each as its own history, the first kept
    first. -/
def keptAt : List Step → List (List Step)
  | [] => []
  | .keep :: past => keptAt past ++ [past]
  | _ :: past => keptAt past

/-- What was kept was kept before. -/
theorem length_lt_of_mem_keptAt {moment past : List Step} (h : moment ∈ keptAt past) :
    moment.length < past.length := by
  induction past with
  | nil => exact nomatch h
  | cons step past ih =>
      have hlater : moment ∈ keptAt past → moment.length < (step :: past).length :=
        fun h => Nat.lt_succ_of_lt (ih h)
      cases step with
      | keep =>
          rcases List.mem_append.mp h with h | h
          · exact hlater h
          · rw [List.mem_singleton.mp h]
            exact Nat.lt_succ_self _
      | _ => exact hlater h

/-- The tables that a history has left in use: those put in use last, or those of the
    beginning. -/
def inUse (t₀ : Tables) : List Step → Tables
  | [] => t₀
  | .replace supply :: past =>
      match supply.tables with
      | .ok t => t
      | .error _ => inUse t₀ past
  | .restore i :: past =>
      match _found : (keptAt past)[i]? with
      | some moment => inUse t₀ moment
      | none => inUse t₀ past
  | _ :: past => inUse t₀ past
termination_by past => past.length
decreasing_by
  all_goals simp only [List.length_cons]
  all_goals first
    | exact Nat.lt_succ_self _
    | exact Nat.lt_succ_of_lt (length_lt_of_mem_keptAt (List.mem_of_getElem? _found))

/-- A restoration leads back to the moment that is restored. -/
theorem inUse_restore (t₀ : Tables) (i : Nat) (past : List Step) :
    inUse t₀ (.restore i :: past)
      = (((keptAt past).map (inUse t₀))[i]?).getD (inUse t₀ past) := by
  rw [inUse, List.getElem?_map]
  split
  · rename_i moment h
    rw [h]
    rfl
  · rename_i h
    rw [h]
    rfl

/-- The step puts tables in use, its own or those of a moment. -/
def Step.Installs : Step → Prop
  | .replace supply => ∃ t, supply.tables = .ok t
  | .restore _ => True
  | _ => False

/-- A step that installs nothing leaves in use what was. -/
theorem inUse_of_not_installs {step : Step} (h : ¬ step.Installs) (t₀ : Tables)
    (past : List Step) : inUse t₀ (step :: past) = inUse t₀ past := by
  cases step with
  | replace supply =>
      rw [inUse]
      cases htables : supply.tables with
      | ok t => exact absurd ⟨t, htables⟩ h
      | error e => rfl
  | restore i => exact absurd trivial h
  | _ => simp only [inUse]

/-- The service after a run that began with these tables. -/
def reached (t₀ : Tables) (steps : List Step) : Service :=
  steps.foldl after ⟨t₀, []⟩

/-- The service that a history tells. -/
def told (t₀ : Tables) (past : List Step) : Service :=
  ⟨inUse t₀ past, (keptAt past).map (inUse t₀)⟩

/-- One more step, and one more in the history. -/
theorem after_told (t₀ : Tables) (past : List Step) (step : Step) :
    (told t₀ past).after step = told t₀ (step :: past) := by
  cases step with
  | replace supply =>
      unfold told
      rw [inUse]
      show (match supply.tables with | .ok t => _ | .error _ => _) = _
      cases supply.tables <;> rfl
  | keep =>
      -- The moment that is kept is the history up to now.
      have hkept : (keptAt (.keep :: past)).map (inUse t₀)
          = (keptAt past).map (inUse t₀) ++ [inUse t₀ past] := List.map_append
      unfold told
      rw [inUse_of_not_installs id, hkept]
      rfl
  | restore i =>
      unfold told
      rw [inUse_restore]
      rfl
  | _ =>
      unfold told
      rw [inUse_of_not_installs id]
      rfl

/-- The service is what its history tells. -/
theorem reached_eq_told (t₀ : Tables) (steps : List Step) :
    reached t₀ steps = told t₀ steps.reverse := by
  -- On the latest step: a run grows at its end, a history at its head.
  induction steps using List.reverseRecOn with
  | nil =>
      unfold told
      rw [List.reverse_nil, inUse]
      rfl
  | append_singleton steps step ih =>
      rw [List.reverse_append, List.reverse_singleton, List.singleton_append, ← after_told, ← ih]
      exact List.foldl_append ..

/-! ## Runs -/

/-- A run answers step by step, each from the service that the steps before have left. -/
theorem run_append (s : Service) (before later : List Step) :
    s.run (before ++ later) = s.run before ++ (before.foldl after s).run later := by
  induction before generalizing s with
  | nil => rfl
  | cons step before ih =>
      rw [List.cons_append, run, ih]
      rfl

/-- A run has one answer for each step. -/
theorem length_run (s : Service) (steps : List Step) : (s.run steps).length = steps.length := by
  induction steps generalizing s with
  | nil => rfl
  | cons step steps ih => exact congrArg (· + 1) (ih _)

/-- Steps that install nothing and keep nothing leave the service as it is. -/
theorem after_eq_self (s : Service) {step : Step} (hinstalls : ¬ step.Installs)
    (hkeep : step ≠ .keep) : s.after step = s := by
  cases step with
  | replace supply =>
      show (match supply.tables with | .ok t => _ | .error _ => s) = s
      cases htables : supply.tables with
      | ok t => exact absurd ⟨t, htables⟩ hinstalls
      | error e => rfl
  | restore i => exact absurd trivial hinstalls
  | keep => exact absurd rfl hkeep
  | _ => rfl

/-- Steps that install nothing leave the same tables in use. -/
theorem tables_foldl_after {later : List Step} (h : ∀ step ∈ later, ¬ step.Installs)
    (s : Service) : (later.foldl after s).tables = s.tables := by
  induction later generalizing s with
  | nil => rfl
  | cons step later ih =>
      rw [List.foldl_cons, ih fun x hx => h x (List.mem_cons_of_mem step hx)]
      by_cases hkeep : step = .keep
      · rw [hkeep]
        rfl
      · rw [after_eq_self s (h step List.mem_cons_self) hkeep]

/-- A step keeps what was kept. -/
theorem kept_prefix_after (s : Service) (step : Step) : s.kept <+: (s.after step).kept := by
  cases step with
  | replace supply =>
      show s.kept <+: (match supply.tables with | .ok t => _ | .error _ => s : Service).kept
      cases supply.tables <;> exact List.prefix_refl _
  | keep => exact List.prefix_append _ _
  | _ => exact List.prefix_refl _

/-- A run keeps what was kept. -/
theorem kept_prefix_foldl_after (s : Service) (later : List Step) :
    s.kept <+: (later.foldl after s).kept := by
  induction later generalizing s with
  | nil => exact List.prefix_refl _
  | cons step later ih => exact (kept_prefix_after s step).trans (ih _)

/-- The tables in use and those kept aside are valid. -/
structure Valid (s : Service) : Prop where
  tables : s.tables.Valid
  kept : ∀ t ∈ s.kept, t.Valid

/-- A step leaves valid tables. -/
theorem Valid.after {s : Service} (h : s.Valid) (step : Step) : (s.after step).Valid := by
  cases step with
  | replace supply =>
      cases htables : supply.tables with
      | ok t =>
          have hafter : s.after (.replace supply) = { s with tables := t } := by
            show (match supply.tables with | .ok t => _ | .error _ => s) = _
            rw [htables]
          rw [hafter]
          exact ⟨Supply.valid_of_tables htables, h.kept⟩
      | error e =>
          -- A refused replacement changes nothing.
          have hinstalls : ¬ Step.Installs (.replace supply) := by
            rintro ⟨t, ht⟩
            rw [htables] at ht
            exact nomatch ht
          rw [after_eq_self s hinstalls (fun h => nomatch h)]
          exact h
  | keep =>
      refine ⟨h.tables, fun t ht => ?_⟩
      rcases List.mem_append.mp ht with ht | ht
      · exact h.kept t ht
      · rw [List.mem_singleton.mp ht]
        exact h.tables
  | restore i =>
      refine ⟨?_, h.kept⟩
      show ((s.kept[i]?).getD s.tables).Valid
      cases hi : s.kept[i]? with
      | none => exact h.tables
      | some t => exact h.kept t (List.mem_of_getElem? hi)
  | _ => exact ⟨h.tables, h.kept⟩

/-- A run leaves valid tables. -/
theorem Valid.foldl_after {s : Service} (h : s.Valid) (steps : List Step) :
    (steps.foldl Service.after s).Valid := by
  induction steps generalizing s with
  | nil => exact h
  | cons step steps ih => exact ih (h.after step)

/-- What a run tells at one of its moments, when these steps have been taken.  In use are the
    tables that were put in use last, kept aside those that were in use when they were kept;
    from the former alone lookups are answered, and the latter are the same whatever comes
    later. -/
structure FollowsHistory (t₀ : Tables) (steps : List Step) : Prop where
  tables : (reached t₀ steps).tables = inUse t₀ steps.reverse
  kept : (reached t₀ steps).kept = (keptAt steps.reverse).map (inUse t₀)
  valid : (reached t₀ steps).Valid
  built : ∀ t ∈ (reached t₀ steps).tables :: (reached t₀ steps).kept, t.entries.build = .ok t
  run : ∀ step later, (Service.run ⟨t₀, []⟩ (steps ++ step :: later))[steps.length]?
    = some ((reached t₀ steps).answer step, (reached t₀ steps).events step)
  lookUp : ∀ postalCode houseNumber,
    (reached t₀ steps).answer (.lookUp postalCode houseNumber)
      = .outcome ((inUse t₀ steps.reverse).lookUp postalCode houseNumber)
  resolve : ∀ postalCode houseNumber,
    (reached t₀ steps).answer (.resolve postalCode houseNumber)
      = .outcome ((inUse t₀ steps.reverse).lookUp postalCode houseNumber)
  overview : (reached t₀ steps).answer .overview = .overview (inUse t₀ steps.reverse).overview
  frame : ∀ step, ¬ step.Installs → step ≠ .keep →
    reached t₀ (steps ++ [step]) = reached t₀ steps
  snapshot : ∀ later, let s := reached t₀ (steps ++ .keep :: later)
    s.answer (.dump (reached t₀ steps).kept.length) = .tables (reached t₀ steps).tables ∧
    ∀ postalCode, s.answer (.inspect (reached t₀ steps).kept.length postalCode)
      = match PostalCode.parse postalCode with
        | .error reason => .invalid reason
        | .ok code => .inspection ((reached t₀ steps).tables.inspect code)
  restored : ∀ between later, (∀ step ∈ later, ¬ step.Installs) →
    let s := reached t₀
      (steps ++ .keep :: between ++ .restore (reached t₀ steps).kept.length :: later)
    s.tables = (reached t₀ steps).tables ∧
    (∀ postalCode houseNumber,
      s.answer (.lookUp postalCode houseNumber)
        = (reached t₀ steps).answer (.lookUp postalCode houseNumber) ∧
      s.answer (.resolve postalCode houseNumber)
        = (reached t₀ steps).answer (.resolve postalCode houseNumber)) ∧
    s.answer .overview = (reached t₀ steps).answer .overview

/-- The service after more steps. -/
theorem reached_append (t₀ : Tables) (steps later : List Step) :
    reached t₀ (steps ++ later) = later.foldl after (reached t₀ steps) :=
  List.foldl_append ..

/-- What is kept aside stands behind what was kept before. -/
theorem getElem?_kept (s : Service) (later : List Step) :
    (later.foldl after (s.after .keep)).kept[s.kept.length]? = some s.tables := by
  -- Whatever comes later only adds behind the tables that were just kept.
  obtain ⟨more, hmore⟩ := kept_prefix_foldl_after (s.after .keep) later
  rw [← hmore]
  show ((s.kept ++ [s.tables]) ++ more)[s.kept.length]? = some s.tables
  rw [List.append_assoc, List.getElem?_append_right (Nat.le_refl _), Nat.sub_self]
  rfl

/-- Tables kept aside are dumped and asked as they are. -/
theorem answer_kept {s : Service} {i : Nat} {t : Tables} (h : s.kept[i]? = some t) :
    s.answer (.dump i) = .tables t ∧
    ∀ postalCode, s.answer (.inspect i postalCode)
      = match PostalCode.parse postalCode with
        | .error reason => .invalid reason
        | .ok code => .inspection (t.inspect code) := by
  refine ⟨?_, fun postalCode => ?_⟩
  · simp only [answer, h]
    rfl
  · simp only [answer, h]
    cases PostalCode.parse postalCode <;> rfl

/-- **Every run follows its history**, from any valid tables and at every step. -/
theorem run_follows_history {t₀ : Tables} (h₀ : t₀.Valid) (steps : List Step) :
    FollowsHistory t₀ steps := by
  have htold := reached_eq_told t₀ steps
  have hstart : (⟨t₀, []⟩ : Service).Valid := ⟨h₀, fun t ht => nomatch ht⟩
  have hvalid : (reached t₀ steps).Valid := hstart.foldl_after steps
  refine
    { tables := ?_, kept := ?_, valid := hvalid, built := ?_, run := ?_, lookUp := ?_,
      resolve := ?_, overview := ?_, frame := ?_, snapshot := ?_, restored := ?_ }
  · rw [htold]
    rfl
  · rw [htold]
    rfl
  · -- Being valid is all that building asks of the entries of tables.
    intro t ht
    exact (Tables.valid_iff_build t).mp (List.forall_mem_cons.mpr ⟨hvalid.tables, hvalid.kept⟩ t ht)
  · intro step later
    rw [run_append, List.getElem?_append_right (by rw [length_run]), length_run, Nat.sub_self]
    rfl
  · intro postalCode houseNumber
    rw [htold]
    rfl
  · intro postalCode houseNumber
    rw [htold]
    rfl
  · rw [htold]
    rfl
  · intro step hinstalls hkeep
    rw [reached_append]
    exact after_eq_self _ hinstalls hkeep
  · intro later
    refine answer_kept ?_
    rw [reached_append]
    exact getElem?_kept _ later
  · intro between later hlater s
    have hs : s.tables = (reached t₀ steps).tables := by
      -- Nothing is installed behind the restoration, and it finds what was kept.
      show (reached t₀ (steps ++ .keep :: between ++ .restore _ :: later)).tables = _
      rw [reached_append, List.foldl_cons, tables_foldl_after hlater, reached_append]
      show (Option.getD _ _ : Tables) = _
      rw [List.foldl_cons, getElem?_kept]
      rfl
    refine ⟨hs, fun postalCode houseNumber => ?_, ?_⟩
    · show Answer.outcome (s.tables.lookUp postalCode houseNumber) = .outcome _ ∧
        Answer.outcome (s.tables.lookUp postalCode houseNumber) = .outcome _
      rw [hs]
      exact ⟨rfl, rfl⟩
    · show Answer.overview s.tables.overview = .overview _
      rw [hs]

/-- Tables are kept, others take their place, and when they are back no blank pass number
    does. -/
theorem run_follows_history_restored :
    (reached ⟨[], [(.oost, "7")], []⟩
        [.keep, .replace .amsterdam, .restore 0, .replace (.calls [.passNumber .oost " "])]).answer
      .overview = .overview [⟨.oost, [], some "7"⟩] := by
  have hvalid : Tables.Valid ⟨[], [(.oost, "7")], []⟩ := ⟨by decide, by decide, by decide⟩
  have hrefused : ∀ step ∈ [Step.replace (.calls [.passNumber .oost " "])],
      ¬ step.Installs := by
    intro step hstep
    rw [List.mem_singleton.mp hstep]
    rintro ⟨t, ht⟩
    exact nomatch ht
  exact ((run_follows_history hvalid []).restored [.replace .amsterdam] _ hrefused).2.2

end Service

end WastePass
