import DeviceLogin.Incident
import DeviceLogin.Proofs.Files
import DeviceLogin.Proofs.Traffic

set_option autoImplicit false

namespace DeviceLogin

def Event.ordinary : Event → Bool
  | .logged level _ => level != .error
  | .waking .. => false
  | .broadcast _ => false
  | .reauthorizing .. => false
  | _ => true

namespace World

structure Reached (allowed : Traffic → Sent → Prop) (start now : World) : Prop where
  faults : now.files.fault = start.files.fault
  refusals : now.refusesProperty = start.refusesProperty
  traffic : ∃ sends, now.traffic = start.traffic.afterAll sends ∧ start.traffic.Along allowed sends
  trace : ∃ events, now.trace = start.trace ++ events ∧ ∀ event ∈ events, event.ordinary

variable {allowed : Traffic → Sent → Prop} {start now next : World} {σ α : Type}

theorem reached_refl (allowed : Traffic → Sent → Prop) (start : World) : Reached allowed start start :=
  ⟨rfl, rfl, ⟨[], rfl, trivial⟩, ⟨[], by simp, by simp⟩⟩

theorem reached_trans (first : Reached allowed start now) (rest : Reached allowed now next) :
    Reached allowed start next := by
  obtain ⟨early, earlyTraffic, earlyAlong⟩ := first.traffic
  obtain ⟨late, lateTraffic, lateAlong⟩ := rest.traffic
  obtain ⟨events, trace, ordinary⟩ := first.trace
  obtain ⟨more, moreTrace, moreOrdinary⟩ := rest.trace
  refine ⟨rest.faults.trans first.faults, rest.refusals.trans first.refusals, ⟨early ++ late, ?_, ?_⟩,
    ⟨events ++ more, ?_, ?_⟩⟩
  · rw [lateTraffic, earlyTraffic, Traffic.after_all_append]
  · rw [Traffic.along_append]
    exact ⟨earlyAlong, earlyTraffic ▸ lateAlong⟩
  · rw [moreTrace, trace, List.append_assoc]
  · intro event member
    rcases List.mem_append.mp member with old | new
    · exact ordinary event old
    · exact moreOrdinary event new

theorem reached_mono {wide : Traffic → Sent → Prop} (within : ∀ traffic sent, allowed traffic sent → wide traffic sent)
    (reached : Reached allowed start now) : Reached wide start now := by
  obtain ⟨sends, traffic, along⟩ := reached.traffic
  exact ⟨reached.faults, reached.refusals, ⟨sends, traffic, Traffic.along_mono within _ _ along⟩, reached.trace⟩

theorem reached_quiet (faults : next.files.fault = now.files.fault) (refusals : next.refusesProperty = now.refusesProperty)
    (traffic : next.traffic = now.traffic) (events : List Event) (trace : next.trace = now.trace ++ events)
    (ordinary : ∀ event ∈ events, event.ordinary) : Reached allowed now next :=
  ⟨faults, refusals, ⟨[], traffic, trivial⟩, ⟨events, trace, ordinary⟩⟩

theorem record_reached (event : Event) (ordinary : event.ordinary) :
    Holding (Reached allowed start) (record event) := by
  intro world reached
  exact reached_trans reached (reached_quiet rfl rfl rfl [event] rfl (by simpa using ordinary))

theorem write_log_reached (logger : Logger) (level : Log.Level) (message : String) (context : Log.Context)
    (minor : level ≠ .error) : Holding (Reached allowed start) (logger.write level message context) :=
  record_reached _ (by simpa [Event.ordinary] using minor)

theorem debug_reached (logger : Logger) (message : String) (context : Log.Context) :
    Holding (Reached allowed start) (logger.debug message context) :=
  write_log_reached logger .debug message context (by simp)

theorem warn_reached (logger : Logger) (message : String) : Holding (Reached allowed start) (logger.warn message) :=
  write_log_reached logger .warn message {} (by simp)

theorem warning_holding {inv : World → Prop} (recorded : ∀ event : Event, event.ordinary → Holding inv (record event))
    (scope message : String) (about : Incident.About) (mild : about.severity = some .warning) :
    Holding inv (Incident.report scope message about) := by
  intro world holds
  have level : (Incident.of message about).severity = .warning := by simp [Incident.of, mild]
  have logged : (Incident.log scope about (Incident.of message about)) =
      record (.logged .warn ((Incident.of message about).line scope about)) := by
    simp only [Incident.log, level]
  change inv ((Incident.log scope about (Incident.of message about)).run world).2
  rw [logged]
  exact recorded _ (by simp [Event.ordinary]) world holds

theorem accessed_reached (reached : Reached allowed start now) : Reached allowed start now.accessed :=
  reached_trans reached (reached_quiet rfl rfl rfl [] (by simp [accessed]) (by simp))

theorem access_reached (call : FileCall) (path : String) :
    Act.Keeps (Reached allowed start)
      (fun after failure => ∃ count fault, after.files.accesses = count + 1 ∧
        start.files.fault count call path = some fault ∧ failure = .error fault.message)
      (access call path) := by
  intro world reached
  have kept := accessed_reached reached
  rw [access_perform]
  cases found : world.fault? call path with
  | none => exact ⟨kept, fun failure failed => nomatch failed⟩
  | some fault =>
      refine ⟨kept, fun failure failed => ?_⟩
      cases failed
      exact ⟨world.files.accesses, fault, rfl, reached.faults ▸ found, rfl⟩

theorem file_exists_reached (path : String) :
    Act.Keeps (Reached allowed start)
      (fun after failure => ∃ count fault, after.files.accesses = count + 1 ∧
        start.files.fault count .probe path = some fault ∧ failure = .error fault.message)
      (fileExists path) :=
  Act.Keeps.bind (access_reached .probe path)
    fun _ => Act.Keeps.get_bind fun _ reached => ⟨reached, fun _ failed => nomatch failed⟩

theorem write_file_reached (path content : String) (mode : WriteMode) :
    Act.Keeps (Reached allowed start) (fun _ _ => True) (writeFile path content mode) := by
  intro world reached
  have put (kept : String) : Reached allowed start (world.accessed.withFile path kept mode) :=
    reached_trans (accessed_reached reached)
      (reached_quiet rfl rfl rfl [.wrote path kept mode] rfl (by simp [Event.ordinary]))
  refine ⟨?_, fun _ _ => trivial⟩
  rw [write_file_perform]
  cases world.barred? path mode with
  | some message => exact accessed_reached reached
  | none => cases world.fault? .write path <;> exact put _

theorem push_reached (key : String) (value : Option String) :
    Act.Keeps (Reached allowed start) (fun _ failure => ∃ key, start.refusesProperty key = some failure) (push key value) := by
  refine Act.Keeps.get_bind fun world reached => ?_
  cases found : world.refusesProperty key with
  | none => exact ⟨record_reached (.property key value) rfl world reached, fun failure failed => nomatch failed⟩
  | some failure =>
      refine ⟨reached, fun other failed => ?_⟩
      cases failed
      exact ⟨key, reached.refusals ▸ found⟩

theorem raise_reached (alarm : Alarm) (message : String) : Holding (Reached allowed start) (raise alarm message) := by
  cases alarm with
  | silent => exact Holding.pure ()
  | report => exact record_reached _ rfl
  | warn context => exact warn_reached ⟨context⟩ message

theorem save_jar_reached (number : Nat) : Holding (Reached allowed start) (saveJar number) := by
  refine Holding.get_bind fun world reached => ?_
  cases file : (world.jar number).file with
  | none =>
      simp only [file]
      exact reached
  | some path =>
      simp only [file]
      exact Act.Keeps.recover (write_file_reached path _ .replacePrivately)
        (fun failure => raise_reached _ _) world reached

end World

end DeviceLogin
