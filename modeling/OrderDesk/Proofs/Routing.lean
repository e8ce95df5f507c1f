import OrderDesk.Shard.Router

/-!
# Which sources are asked, and which connections are used

The router asks the sources of a shard for connections, the primary first, and the binding that
comes of it says which connections work runs on. Both may depend on all that happened before, so
acquiring a connection and working on one are steps in a world of the caller's. To see what is asked
for and what is used, such a step is traced: it keeps its inputs, and nothing else about it changes.
-/

namespace OrderDesk

/-- What comes after a step begins where the step ended. -/
theorem run_bind_of_run {ω α β : Type} {step : StateM ω α} {before between : ω} {output : α}
    (ran : step.run before = (output, between)) (next : α → StateM ω β) :
    (step >>= next).run before = (next output).run between := by
  rw [StateT.run_bind, ran]
  rfl

/-- A step that keeps what it was run on, the oldest first. -/
def traced {ω α β : Type} (step : α → StateM ω β) (input : α) : StateM (List α × ω) β :=
  fun (inputs, world) =>
    let (output, after) := (step input).run world
    (output, inputs ++ [input], after)

theorem run_traced {ω α β : Type} {step : α → StateM ω β} {input : α} {before after : ω}
    {output : β} (ran : (step input).run before = (output, after)) (inputs : List α) :
    (traced step input).run (inputs, before) = (output, inputs ++ [input], after) := by
  simp only [StateT.run, traced] at ran ⊢
  rw [ran]

/-! ## Work on a binding -/

namespace Binding

variable {κ ε α ω : Type} {work : κ → StateM ω (Except ε α)} {binding : Binding κ}
    {before after : ω}

theorem run_of_ok {value : α} (ran : (work binding.current).run before = (.ok value, after)) :
    (binding.run work).run before = (.ok value, after) := by
  rw [Binding.run, run_bind_of_run ran]
  rfl

theorem run_of_direct {error : ε} (ran : (work binding.current).run before = (.error error, after))
    (alone : binding.fallback = none) : (binding.run work).run before = (.error error, after) := by
  simp only [Binding.run, run_bind_of_run ran, alone]
  rfl

theorem run_of_fallback {error : ε} {primary : κ}
    (ran : (work binding.current).run before = (.error error, after))
    (backed : binding.fallback = some primary) :
    (binding.run work).run before = (work primary).run after := by
  simp only [Binding.run, run_bind_of_run ran, backed]

/-- Work runs once, unless it fails on a replica; then it runs a second time, on the primary. -/
inductive Ran (work : κ → StateM ω (Except ε α)) (binding : Binding κ) (before : ω) :
    Except ε α → List κ → ω → Prop where
  | once {result : Except ε α} {after : ω}
      (ran : (work binding.current).run before = (result, after))
      (last : result.isOk = true ∨ binding.onReplica = false) :
      Ran work binding before result [binding.current] after
  | twice {error : ε} {between after : ω} {result : Except ε α}
      (failed : (work binding.current).run before = (.error error, between))
      (backed : binding.onReplica = true)
      (ran : (work binding.primary).run between = (result, after)) :
      Ran work binding before result [binding.current, binding.primary] after

/-- Where no replica is bound, work runs on the primary, once. -/
theorem Ran.used_eq {result : Except ε α} {used : List κ}
    (ran : Ran work binding before result used after) (single : binding.onReplica = false) :
    used = [binding.primary] := by
  cases ran with
  | once ran last =>
    have alone : binding.fallback = none := by
      simpa [onReplica] using single
    rw [Binding.primary, alone]
    rfl
  | twice failed backed again =>
    rw [backed] at single
    cases single

/-- Traced or not, work on a binding comes to the same, and the trace is what it ran on. -/
theorem exists_ran (work : κ → StateM ω (Except ε α)) (binding : Binding κ) (before : ω) :
    ∃ result used after, (binding.run work).run before = (result, after) ∧
      (binding.run (traced work)).run ([], before) = (result, used, after) ∧
      binding.Ran work before result used after := by
  rcases ran : (work binding.current).run before with ⟨error | value, between⟩
  · cases backed : binding.fallback with
    | none =>
      exact ⟨_, _, _, run_of_direct ran backed, run_of_direct (run_traced ran []) backed,
        .once ran (.inr (by rw [onReplica, backed]; rfl))⟩
    | some primary =>
      have behind : binding.primary = primary := by rw [Binding.primary, backed]; rfl
      rcases again : (work primary).run between with ⟨result, after⟩
      refine ⟨_, _, _, (run_of_fallback ran backed).trans again,
        (run_of_fallback (run_traced ran []) backed).trans (run_traced again _), ?_⟩
      rw [← behind] at again ⊢
      exact .twice ran (by rw [onReplica, backed]; rfl) again
  · exact ⟨_, _, _, run_of_ok ran, run_of_ok (run_traced ran []), .once ran (.inl rfl)⟩

end Binding

/-! ## Binding a connection to a shard -/

namespace Site

variable {σ : Type} {site : Site σ} {intent : Intent}

theorem toList_replicaFor : (site.replicaFor intent).toList =
    if intent = .read then site.replica.toList else [] := by
  cases intent <;> rfl

theorem replicaFor_eq_some_iff {replica : σ} :
    site.replicaFor intent = some replica ↔ intent = .read ∧ site.replica = some replica := by
  cases intent <;> simp [Site.replicaFor]

end Site

namespace Router

variable {σ κ ω : Type} {router : Router σ} {acquire : σ → StateM ω (Except StorageError κ)}
  {intent : Intent} {shard : ShardIndex} {site : Site σ} {before between after : ω} {primary : κ}

theorem site_eq_ok (there : router.sites[shard.num]? = some site) :
    router.site shard = .ok site := by
  rw [Router.site, there]

theorem site_of_missing (missing : router.sites[shard.num]? = none) :
    router.site shard = .error (.unknownShard shard router.size) := by
  rw [Router.site, missing]

theorem pickShard_of_missing (missing : router.sites[shard.num]? = none) :
    (router.pickShard acquire shard intent).run before =
      (.error (.unknownShard shard router.size), before) := by
  rw [pickShard, site_of_missing missing]
  rfl

theorem pickShard_of_refused {error : StorageError} (there : router.sites[shard.num]? = some site)
    (refused : (acquire site.primary).run before = (.error error, after)) :
    (router.pickShard acquire shard intent).run before = (.error error, after) := by
  simp only [pickShard, site_eq_ok there, run_bind_of_run refused]
  rfl

theorem pickShard_of_single (there : router.sites[shard.num]? = some site)
    (acquired : (acquire site.primary).run before = (.ok primary, after))
    (single : site.replicaFor intent = none) :
    (router.pickShard acquire shard intent).run before = (.ok (.direct shard primary), after) := by
  simp only [pickShard, site_eq_ok there, run_bind_of_run acquired, single]
  rfl

theorem pickShard_of_unserved {replica : σ} {error : StorageError}
    (there : router.sites[shard.num]? = some site)
    (acquired : (acquire site.primary).run before = (.ok primary, between))
    (wanted : site.replicaFor intent = some replica)
    (refused : (acquire replica).run between = (.error error, after)) :
    (router.pickShard acquire shard intent).run before = (.ok (.direct shard primary), after) := by
  simp only [pickShard, site_eq_ok there, run_bind_of_run acquired, wanted, run_bind_of_run refused]
  rfl

theorem pickShard_of_served {replica : σ} {connection : κ}
    (there : router.sites[shard.num]? = some site)
    (acquired : (acquire site.primary).run before = (.ok primary, between))
    (wanted : site.replicaFor intent = some replica)
    (served : (acquire replica).run between = (.ok connection, after)) :
    (router.pickShard acquire shard intent).run before =
      (.ok (.withFallback shard connection primary), after) := by
  simp only [pickShard, site_eq_ok there, run_bind_of_run acquired, wanted, run_bind_of_run served]
  rfl

/-- What binding a connection to a shard comes to, which sources are asked for it, and what world is
    left. -/
inductive Picked (router : Router σ) (acquire : σ → StateM ω (Except StorageError κ))
    (intent : Intent) (shard : ShardIndex) (before : ω) :
    Except StorageError (Binding κ) → List σ → ω → Prop where
  | missing (missing : router.sites[shard.num]? = none) :
      Picked router acquire intent shard before (.error (.unknownShard shard router.size)) [] before
  | refused {site : Site σ} {error : StorageError} {after : ω}
      (there : router.sites[shard.num]? = some site)
      (refused : (acquire site.primary).run before = (.error error, after)) :
      Picked router acquire intent shard before (.error error) [site.primary] after
  | single {site : Site σ} {primary : κ} {after : ω}
      (there : router.sites[shard.num]? = some site)
      (acquired : (acquire site.primary).run before = (.ok primary, after))
      (single : site.replicaFor intent = none) :
      Picked router acquire intent shard before (.ok (.direct shard primary)) [site.primary] after
  | unserved {site : Site σ} {primary : κ} {between after : ω} {replica : σ} {error : StorageError}
      (there : router.sites[shard.num]? = some site)
      (acquired : (acquire site.primary).run before = (.ok primary, between))
      (wanted : site.replicaFor intent = some replica)
      (refused : (acquire replica).run between = (.error error, after)) :
      Picked router acquire intent shard before (.ok (.direct shard primary))
        [site.primary, replica] after
  | served {site : Site σ} {primary : κ} {between after : ω} {replica : σ} {connection : κ}
      (there : router.sites[shard.num]? = some site)
      (acquired : (acquire site.primary).run before = (.ok primary, between))
      (wanted : site.replicaFor intent = some replica)
      (served : (acquire replica).run between = (.ok connection, after)) :
      Picked router acquire intent shard before (.ok (.withFallback shard connection primary))
        [site.primary, replica] after

/-- Traced or not, binding a connection comes to the same, and the trace grows by what was asked. -/
theorem exists_picked (router : Router σ) (acquire : σ → StateM ω (Except StorageError κ))
    (intent : Intent) (shard : ShardIndex) (before : ω) :
    ∃ result asked after, (router.pickShard acquire shard intent).run before = (result, after) ∧
      (∀ sources, (router.pickShard (traced acquire) shard intent).run (sources, before) =
        (result, sources ++ asked, after)) ∧
      Picked router acquire intent shard before result asked after := by
  cases there : router.sites[shard.num]? with
  | none =>
    refine ⟨_, _, _, pickShard_of_missing there, fun sources => ?_, .missing there⟩
    rw [pickShard_of_missing there, List.append_nil]
  | some site =>
    rcases acquired : (acquire site.primary).run before with ⟨error | primary, between⟩
    · exact ⟨_, _, _, pickShard_of_refused there acquired,
        fun sources => pickShard_of_refused there (run_traced acquired sources),
        .refused there acquired⟩
    · cases wanted : site.replicaFor intent with
      | none =>
        exact ⟨_, _, _, pickShard_of_single there acquired wanted,
          fun sources => pickShard_of_single there (run_traced acquired sources) wanted,
          .single there acquired wanted⟩
      | some replica =>
        have asked : ∀ sources : List σ, sources ++ [site.primary, replica] =
            sources ++ [site.primary] ++ [replica] := fun sources => by
          rw [List.append_assoc, List.singleton_append]
        rcases answered : (acquire replica).run between with ⟨error | connection, after⟩
        · refine ⟨_, _, _, pickShard_of_unserved there acquired wanted answered, fun sources => ?_,
            .unserved there acquired wanted answered⟩
          rw [asked]
          exact pickShard_of_unserved there (run_traced acquired _) wanted (run_traced answered _)
        · refine ⟨_, _, _, pickShard_of_served there acquired wanted answered, fun sources => ?_,
            .served there acquired wanted answered⟩
          rw [asked]
          exact pickShard_of_served there (run_traced acquired _) wanted (run_traced answered _)

/-- A binding is what the sources of its shard gave: the primary's connection, alone if there is no
    replica for the intent or none that can be had, and else behind the replica's. -/
inductive Bound (router : Router σ) (acquire : σ → StateM ω (Except StorageError κ))
    (intent : Intent) (shard : ShardIndex) (before : ω) : Binding κ → Prop where
  | alone {site : Site σ} {primary : κ} {between : ω}
      (there : router.sites[shard.num]? = some site)
      (acquired : (acquire site.primary).run before = (.ok primary, between))
      (lacking : ∀ replica, intent = .read → site.replica = some replica →
        ∃ error, ((acquire replica).run between).1 = .error error) :
      Bound router acquire intent shard before (.direct shard primary)
  | backed {site : Site σ} {primary : κ} {between : ω} {replica : σ} {connection : κ}
      (there : router.sites[shard.num]? = some site)
      (acquired : (acquire site.primary).run before = (.ok primary, between))
      (reading : intent = .read) (has : site.replica = some replica)
      (served : ((acquire replica).run between).1 = .ok connection) :
      Bound router acquire intent shard before (.withFallback shard connection primary)

theorem Bound.shard_eq {binding : Binding κ}
    (bound : Bound router acquire intent shard before binding) : binding.shard = shard := by
  cases bound with
  | alone => rfl
  | backed => rfl

theorem Bound.exists_before {binding : Binding κ}
    (bound : Bound router acquire intent shard before binding) :
    ∃ before, Bound router acquire intent binding.shard before binding :=
  ⟨before, bound.shard_eq.symm ▸ bound⟩

namespace Picked

variable {result : Except StorageError (Binding κ)} {asked : List σ}

/-- Once the primary was had, the replica is asked that may serve the intent. -/
theorem sought_of_acquired (acquired : (acquire site.primary).run before = (.ok primary, between)) :
    (if intent = .read ∧
      ((acquire site.primary).run before).1.isOk then site.replica.toList else []) =
      (site.replicaFor intent).toList := by
  rw [acquired, Site.toList_replicaFor]
  simp only [Except.isOk, Except.toBool, and_true]

/-- The primary is asked first and once. A replica is asked for reading, once, and only if the
    primary was had. -/
theorem asked_eq (picked : Picked router acquire intent shard before result asked after)
    (there : router.sites[shard.num]? = some site) :
    asked = site.primary ::
      if intent = .read ∧ ((acquire site.primary).run before).1.isOk then site.replica.toList
      else [] := by
  cases picked with
  | missing missing => rw [missing] at there; cases there
  | refused here refused =>
    obtain rfl := Option.some.inj (here.symm.trans there)
    rw [refused, if_neg fun sought => nomatch sought.2]
  | single here acquired single =>
    obtain rfl := Option.some.inj (here.symm.trans there)
    rw [sought_of_acquired acquired, single]
    rfl
  | unserved here acquired wanted refused =>
    obtain rfl := Option.some.inj (here.symm.trans there)
    rw [sought_of_acquired acquired, wanted]
    rfl
  | served here acquired wanted served =>
    obtain rfl := Option.some.inj (here.symm.trans there)
    rw [sought_of_acquired acquired, wanted]
    rfl

theorem of_missing (picked : Picked router acquire intent shard before result asked after)
    (missing : router.sites[shard.num]? = none) : asked = [] ∧ after = before := by
  cases picked with
  | missing => exact ⟨rfl, rfl⟩
  | refused there => rw [missing] at there; cases there
  | single there => rw [missing] at there; cases there
  | unserved there => rw [missing] at there; cases there
  | served there => rw [missing] at there; cases there

/-- Binding a connection fails for want of the shard or of its primary, and for nothing else. -/
theorem eq_error_iff (picked : Picked router acquire intent shard before result asked after)
    {error : StorageError} : result = .error error ↔
      router.sites[shard.num]? = none ∧ error = .unknownShard shard router.size ∨
      ∃ site, router.sites[shard.num]? = some site ∧
        ((acquire site.primary).run before).1 = .error error := by
  cases picked with
  | missing missing => simp [missing, eq_comm]
  | refused there refused => simp [there, refused]
  | single there acquired single => simp [there, acquired]
  | unserved there acquired wanted refused => simp [there, acquired]
  | served there acquired wanted served => simp [there, acquired]

theorem bound {binding : Binding κ}
    (picked : Picked router acquire intent shard before (.ok binding) asked after) :
    Bound router acquire intent shard before binding := by
  cases picked with
  | single there acquired single =>
    refine .alone there acquired fun replica reading has => ?_
    rw [Site.replicaFor_eq_some_iff.2 ⟨reading, has⟩] at single
    cases single
  | unserved there acquired wanted refused =>
    refine .alone there acquired fun replica reading has => ?_
    obtain rfl := Option.some.inj (wanted.symm.trans (Site.replicaFor_eq_some_iff.2 ⟨reading, has⟩))
    exact ⟨_, congrArg Prod.fst refused⟩
  | served there acquired wanted served =>
    obtain ⟨reading, has⟩ := Site.replicaFor_eq_some_iff.1 wanted
    exact .backed there acquired reading has (congrArg Prod.fst served)

end Picked

/-! ## Binding a connection to every shard -/

section Every

variable (router : Router σ) (acquire : σ → StateM ω (Except StorageError κ)) (intent : Intent)

/-- Binding a connection to the shard of a number, with the sources that are asked for it. -/
def attempt (num : Nat) (before : ω) : Except StorageError (Binding κ) × List σ × ω :=
  (router.pickShard (traced acquire) ⟨num⟩ intent).run ([], before)

/-- The world in which the shard of a number is reached, if connections are bound in order. -/
def worldAt (start : ω) : Nat → ω
  | 0 => start
  | num + 1 => (router.attempt acquire intent num (worldAt start num)).2.2

/-- What binding a connection to the shard of a number comes to when that shard is reached. -/
def resultAt (start : ω) (num : Nat) : Except StorageError (Binding κ) :=
  (router.attempt acquire intent num (router.worldAt acquire intent start num)).1

/-- The sources that are asked when the shard of a number is reached. -/
def askedAt (start : ω) (num : Nat) : List σ :=
  (router.attempt acquire intent num (router.worldAt acquire intent start num)).2.1

/-- Some shards from `first` on were reached in order: all of them, or those up to the first that
    could not be had. -/
inductive Reached (start : ω) (first count : Nat) :
    Except StorageError (List (Binding κ)) → List σ → ω → Prop where
  | all {bindings : List (Binding κ)} {asked : List σ} {after : ω}
      (had : (List.range' first count).map (router.resultAt acquire intent start) =
        bindings.map .ok)
      (sought : asked = (List.range' first count).flatMap (router.askedAt acquire intent start))
      (left : after = router.worldAt acquire intent start (first + count)) :
      Reached start first count (.ok bindings) asked after
  | upTo {before : Nat} {error : StorageError} {asked : List σ} {after : ω} (fewer : before < count)
      (had : ∀ num, first ≤ num → num < first + before →
        ∃ binding, router.resultAt acquire intent start num = .ok binding)
      (failed : router.resultAt acquire intent start (first + before) = .error error)
      (sought : asked =
        (List.range' first (before + 1)).flatMap (router.askedAt acquire intent start))
      (left : after = router.worldAt acquire intent start (first + before + 1)) :
      Reached start first count (.error error) asked after

end Every

/-- A shard is bound in the world in which it is reached, and leaves the one in which the next
    is. -/
theorem picked_at (router : Router σ) (acquire : σ → StateM ω (Except StorageError κ))
    (intent : Intent) (start : ω) (num : Nat) :
    (router.pickShard acquire ⟨num⟩ intent).run (router.worldAt acquire intent start num) =
        (router.resultAt acquire intent start num, router.worldAt acquire intent start (num + 1)) ∧
      (∀ sources, (router.pickShard (traced acquire) ⟨num⟩ intent).run
          (sources, router.worldAt acquire intent start num) =
        (router.resultAt acquire intent start num,
          sources ++ router.askedAt acquire intent start num,
          router.worldAt acquire intent start (num + 1))) ∧
      Picked router acquire intent ⟨num⟩ (router.worldAt acquire intent start num)
        (router.resultAt acquire intent start num) (router.askedAt acquire intent start num)
        (router.worldAt acquire intent start (num + 1)) := by
  obtain ⟨result, asked, after, plain, watched, picked⟩ :=
    exists_picked router acquire intent ⟨num⟩ (router.worldAt acquire intent start num)
  have attempted : router.attempt acquire intent num (router.worldAt acquire intent start num) =
      (result, asked, after) := watched []
  rw [resultAt, askedAt, worldAt, attempted]
  exact ⟨plain, watched, picked⟩

/-- A shard that can be had goes in front of those that are reached after it. -/
theorem Reached.cons {start : ω} {first count : Nat} {binding : Binding κ} {asked : List σ}
    {result : Except StorageError (List (Binding κ))}
    (here : router.resultAt acquire intent start first = .ok binding)
    (later : router.Reached acquire intent start (first + 1) count result asked after) :
    router.Reached acquire intent start first (count + 1) (result.map (binding :: ·))
      (router.askedAt acquire intent start first ++ asked) after := by
  cases later with
  | all had sought left =>
    refine .all ?_ ?_ ?_
    · rw [List.range'_succ, List.map_cons, here, had, List.map_cons]
    · rw [List.range'_succ, List.flatMap_cons, sought]
    · rw [left, Nat.add_right_comm, Nat.add_assoc]
  | @upTo before error _ _ fewer had failed sought left =>
    have last : first + (before + 1) = first + 1 + before := by omega
    refine .upTo (Nat.succ_lt_succ fewer) ?_ (last ▸ failed) ?_ (last ▸ left)
    · intro num from_ below
      rcases Nat.eq_or_lt_of_le from_ with rfl | above
      · exact ⟨binding, here⟩
      · exact had num above (last ▸ below)
    · rw [List.range'_succ, List.flatMap_cons, sought]

theorem pickEach_of_error {rest : List ShardIndex} {error : StorageError}
    (failed : (router.pickShard acquire shard intent).run before = (.error error, after)) :
    (router.pickEach acquire intent (shard :: rest)).run before = (.error error, after) := by
  simp only [pickEach, run_bind_of_run failed]
  rfl

theorem pickEach_of_ok {rest : List ShardIndex} {binding : Binding κ}
    {result : Except StorageError (List (Binding κ))}
    (had : (router.pickShard acquire shard intent).run before = (.ok binding, between))
    (later : (router.pickEach acquire intent rest).run between = (result, after)) :
    (router.pickEach acquire intent (shard :: rest)).run before =
      (result.map (binding :: ·), after) := by
  simp only [pickEach, run_bind_of_run had, run_bind_of_run later]
  cases result <;> rfl

/-- Connections to some shards from `first` on are bound in order. -/
theorem exists_reached (router : Router σ) (acquire : σ → StateM ω (Except StorageError κ))
    (intent : Intent) (start : ω) (count first : Nat) :
    ∃ result asked after,
      (router.pickEach acquire intent ((List.range' first count).map ShardIndex.mk)).run
        (router.worldAt acquire intent start first) = (result, after) ∧
      (∀ sources,
        (router.pickEach (traced acquire) intent ((List.range' first count).map ShardIndex.mk)).run
          (sources, router.worldAt acquire intent start first) =
            (result, sources ++ asked, after)) ∧
      router.Reached acquire intent start first count result asked after := by
  -- Whatever was asked before stands in front of the trace, so the steps of the list can be
  -- chained.
  induction count generalizing first with
  | zero =>
    refine ⟨.ok [], [], _, rfl, fun sources => ?_, .all rfl rfl rfl⟩
    rw [List.append_nil]
    rfl
  | succ count ih =>
    obtain ⟨plain, watched, -⟩ := picked_at router acquire intent start first
    rw [List.range'_succ, List.map_cons]
    cases here : router.resultAt acquire intent start first with
    | error error =>
      rw [here] at plain watched
      refine ⟨_, _, _, pickEach_of_error plain, fun sources => pickEach_of_error (watched sources),
        .upTo (Nat.succ_pos count) ?_ here ?_ rfl⟩
      · intro num from_ below
        omega
      · rw [List.range'_one, List.flatMap_singleton]
    | ok binding =>
      rw [here] at plain watched
      obtain ⟨result, asked, after, later, laterWatched, reached⟩ := ih (first + 1)
      refine ⟨_, _, _, pickEach_of_ok plain later, fun sources => ?_, reached.cons here⟩
      rw [← List.append_assoc]
      exact pickEach_of_ok (watched sources) (laterWatched _)

theorem bound_of_resultAt {start : ω} {num : Nat} {binding : Binding κ}
    (had : router.resultAt acquire intent start num = .ok binding) :
    Bound router acquire intent ⟨num⟩ (router.worldAt acquire intent start num) binding := by
  obtain ⟨-, -, picked⟩ := picked_at router acquire intent start num
  rw [had] at picked
  exact picked.bound

/-- Bindings that were had in order are labelled in order. -/
theorem map_shard_of_had {start : ω} {nums : List Nat} {bindings : List (Binding κ)}
    (had : nums.map (router.resultAt acquire intent start) = bindings.map .ok) :
    bindings.map (·.shard) = nums.map ShardIndex.mk := by
  induction nums generalizing bindings with
  | nil =>
    rw [List.map_eq_nil_iff.1 had.symm]
    rfl
  | cons num rest ih =>
    obtain ⟨binding, others, rfl, here, later⟩ := List.map_eq_cons_iff.1 had.symm
    rw [List.map_cons, List.map_cons, (bound_of_resultAt here.symm).shard_eq, ih later.symm]

/-- The bindings that the router gives for an intent, by whatever it is asked. -/
inductive Gives (router : Router σ) (acquire : σ → StateM ω (Except StorageError κ))
    (intent : Intent) (binding : Binding κ) : Prop where
  | shard {shard : ShardIndex} {before after : ω}
      (picked : (router.pickShard acquire shard intent).run before = (.ok binding, after))
  | key {key : String} {before after : ω}
      (picked : (router.pick acquire key intent).run before = (.ok binding, after))
  | order {id : OrderId} {before after : ω}
      (picked : (router.pickOrder acquire id intent).run before = (.ok binding, after))
  | inventory {before after : ω}
      (picked : (router.pickInventory acquire intent).run before = (.ok binding, after))
  | all {bindings : List (Binding κ)} {before after : ω}
      (picked : (router.pickAll acquire intent).run before = (.ok bindings, after))
      (member : binding ∈ bindings)

theorem bound_of_pickShard {binding : Binding κ}
    (picked : (router.pickShard acquire shard intent).run before = (.ok binding, after)) :
    Bound router acquire intent shard before binding := by
  obtain ⟨result, asked, left, plain, -, came⟩ := exists_picked router acquire intent shard before
  obtain ⟨rfl, -⟩ := Prod.mk.inj (plain.symm.trans picked)
  exact came.bound

theorem exists_pickedAll (router : Router σ) (acquire : σ → StateM ω (Except StorageError κ))
    (intent : Intent) (start : ω) :
    ∃ result asked after, (router.pickAll acquire intent).run start = (result, after) ∧
      (router.pickAll (traced acquire) intent).run ([], start) = (result, asked, after) ∧
      router.Reached acquire intent start 0 router.size result asked after := by
  obtain ⟨result, asked, after, plain, watched, reached⟩ :=
    exists_reached router acquire intent start router.size 0
  rw [← List.range_eq_range'] at plain watched
  exact ⟨result, asked, after, plain, watched [], reached⟩

/-- However a binding was picked, it was picked for its own shard in some world. -/
theorem Gives.exists_bound {binding : Binding κ} (gives : Gives router acquire intent binding) :
    ∃ before, Bound router acquire intent binding.shard before binding := by
  cases gives with
  | shard picked => exact (bound_of_pickShard picked).exists_before
  | key picked => exact (bound_of_pickShard picked).exists_before
  | @order id before after picked =>
    cases encoded : router.shardForOrder id with
    | error error =>
      simp only [pickOrder, encoded] at picked
      cases picked
    | ok shard =>
      simp only [pickOrder, encoded] at picked
      exact (bound_of_pickShard picked).exists_before
  | inventory picked => exact (bound_of_pickShard picked).exists_before
  | @all bindings before after picked member =>
    obtain ⟨result, asked, left, plain, -, reached⟩ := exists_pickedAll router acquire intent before
    obtain ⟨rfl, -⟩ := Prod.mk.inj (plain.symm.trans picked)
    cases reached with
    | all had sought left =>
      have among : (.ok binding : Except StorageError (Binding κ)) ∈ bindings.map .ok :=
        List.mem_map_of_mem member
      rw [← had] at among
      obtain ⟨num, -, here⟩ := List.mem_map.1 among
      exact (bound_of_resultAt here).exists_before

/-- For writing, a binding is to the primary alone. -/
theorem Bound.of_write {binding : Binding κ}
    (bound : Bound router acquire intent shard before binding) (writing : intent = .write) :
    binding.onReplica = false ∧ ∃ site between, router.sites[shard.num]? = some site ∧
      (acquire site.primary).run before = (.ok binding.primary, between) := by
  cases bound with
  | alone there acquired lacking => exact ⟨rfl, _, _, there, acquired⟩
  | backed there acquired reading has served =>
    rw [reading] at writing
    cases writing

/-- To bind a shard its primary is asked, first and once, and then its replica, once, if there is
    one, it is wanted for reading and the primary was had. This fails exactly if there is no such
    shard, and then nothing is asked, or if the primary cannot be had. To bind every shard the
    sources are asked as for one shard after the other, up to the first whose primary cannot be had,
    and the bindings are labelled in order. However a binding was picked, work on it runs once if it
    succeeds or no replica is bound, and else twice, on the replica and then on the primary; its
    result is that of the last time. For writing, the binding is what the primary gave, and work
    runs on nothing else. -/
theorem routes_with_discipline (router : Router σ)
    (acquire : σ → StateM ω (Except StorageError κ)) (intent : Intent) :
    (∀ shard before, ∃ result asked after,
      (router.pickShard acquire shard intent).run before = (result, after) ∧
      (router.pickShard (traced acquire) shard intent).run ([], before) = (result, asked, after) ∧
      (router.sites[shard.num]? = none → asked = [] ∧ after = before) ∧
      (∀ site, router.sites[shard.num]? = some site → asked = site.primary ::
        if intent = .read ∧ ((acquire site.primary).run before).1.isOk then site.replica.toList
        else []) ∧
      (∀ error, result = .error error ↔
        router.sites[shard.num]? = none ∧ error = .unknownShard shard router.size ∨
        ∃ site, router.sites[shard.num]? = some site ∧
          ((acquire site.primary).run before).1 = .error error) ∧
      ∀ binding, result = .ok binding → Bound router acquire intent shard before binding) ∧
    (∀ start, ∃ result asked after,
      (router.pickAll acquire intent).run start = (result, after) ∧
      (router.pickAll (traced acquire) intent).run ([], start) = (result, asked, after) ∧
      ((∃ bindings, result = .ok bindings ∧ bindings.map (·.shard) = router.indices ∧
          (List.range router.size).map (router.resultAt acquire intent start) = bindings.map .ok ∧
          asked = (List.range router.size).flatMap (router.askedAt acquire intent start)) ∨
        ∃ last site error, router.sites[last]? = some site ∧
          ((acquire site.primary).run (router.worldAt acquire intent start last)).1 = .error error ∧
          result = .error error ∧
          (∀ num < last, ∃ binding, router.resultAt acquire intent start num = .ok binding) ∧
          asked = (List.range (last + 1)).flatMap (router.askedAt acquire intent start))) ∧
    ∀ binding, router.Gives acquire intent binding →
      (∃ before, Bound router acquire intent binding.shard before binding ∧
        (intent = .write → ∃ site between, router.sites[binding.shard.num]? = some site ∧
          (acquire site.primary).run before = (.ok binding.primary, between))) ∧
      ∀ (α ε υ : Type) (work : κ → StateM υ (Except ε α)) (world : υ), ∃ result used after,
        (binding.run work).run world = (result, after) ∧
        (binding.run (traced work)).run ([], world) = (result, used, after) ∧
        binding.Ran work world result used after ∧
        (intent = .write → used = [binding.primary]) := by
  refine ⟨?_, ?_, ?_⟩
  · intro shard before
    obtain ⟨result, asked, after, plain, watched, picked⟩ :=
      exists_picked router acquire intent shard before
    refine ⟨result, asked, after, plain, watched [], picked.of_missing, fun site => picked.asked_eq,
      fun error => picked.eq_error_iff, ?_⟩
    rintro binding rfl
    exact picked.bound
  · intro start
    obtain ⟨result, asked, after, plain, watched, reached⟩ :=
      exists_pickedAll router acquire intent start
    refine ⟨result, asked, after, plain, watched, ?_⟩
    cases reached with
    | @all bindings _ _ had sought left =>
      rw [← List.range_eq_range'] at had sought
      exact .inl ⟨bindings, rfl, map_shard_of_had had, had, sought⟩
    | @upTo last error _ _ fewer had failed sought left =>
      rw [Nat.zero_add] at failed
      rw [← List.range_eq_range'] at sought
      have there : router.sites[last]? = some router.sites[last] := List.getElem?_eq_getElem fewer
      obtain ⟨-, -, picked⟩ := picked_at router acquire intent start last
      obtain ⟨missing, -⟩ | ⟨site, there, refused⟩ := picked.eq_error_iff.1 failed
      · rw [there] at missing
        cases missing
      · exact .inr ⟨last, site, error, there, refused, rfl,
          fun num below => had num (Nat.zero_le num) (by omega), sought⟩
  · intro binding gives
    obtain ⟨before, bound⟩ := gives.exists_bound
    refine ⟨⟨before, bound, fun writing => (bound.of_write writing).2⟩, ?_⟩
    intro α ε υ work world
    obtain ⟨result, used, after, plain, watched, ran⟩ := binding.exists_ran work world
    exact ⟨result, used, after, plain, watched, ran,
      fun writing => ran.used_eq (bound.of_write writing).1⟩

/-- A shard with a replica on which work fails: for reading, work runs on the replica and then on
    the primary; for writing it runs on the primary alone. -/
theorem routes_with_discipline_failingReplica :
    let router : Router String := ⟨[⟨"primary", some "replica"⟩], by decide, by decide⟩
    let acquire : String → StateM Nat (Except StorageError String) := fun source asked =>
      (.ok source, asked + 1)
    let work : String → StateM Nat (Except Unit String) := fun connection runs =>
      (if connection = "replica" then .error () else .ok connection, runs + 1)
    (∃ binding after, (router.pickShard acquire ⟨0⟩ .read).run 0 = (.ok binding, after) ∧
      ∃ result after, (binding.run (traced work)).run ([], 0) =
        (result, ["replica", "primary"], after)) ∧
    ∃ binding after, (router.pickShard acquire ⟨0⟩ .write).run 0 = (.ok binding, after) ∧
      ∃ result after, (binding.run (traced work)).run ([], 0) = (result, ["primary"], after) := by
  intro router acquire work
  constructor
  · have picked : (router.pickShard acquire ⟨0⟩ .read).run 0 =
        (.ok (.withFallback ⟨0⟩ "replica" "primary"), 2) := rfl
    obtain ⟨-, -, gives⟩ := routes_with_discipline router acquire .read
    obtain ⟨-, works⟩ := gives _ (.shard picked)
    obtain ⟨result, used, after, -, watched, ran, -⟩ := works _ _ _ work 0
    refine ⟨_, _, picked, result, after, watched.trans ?_⟩
    cases ran with
    | once ran last =>
      have failed : (work "replica").run 0 = (.error (), 1) := rfl
      obtain ⟨rfl, -⟩ := Prod.mk.inj (failed.symm.trans ran)
      rcases last with succeeded | single
      · cases succeeded
      · cases single
    | twice => rfl
  · have picked : (router.pickShard acquire ⟨0⟩ .write).run 0 = (.ok (.direct ⟨0⟩ "primary"), 1) :=
      rfl
    obtain ⟨-, -, gives⟩ := routes_with_discipline router acquire .write
    obtain ⟨-, works⟩ := gives _ (.shard picked)
    obtain ⟨result, used, after, -, watched, -, writing⟩ := works _ _ _ work 0
    rw [writing rfl] at watched
    exact ⟨_, _, picked, result, after, watched⟩

end Router

end OrderDesk
