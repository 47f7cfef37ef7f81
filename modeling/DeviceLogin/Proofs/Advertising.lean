import DeviceLogin.Proofs.MethodLists
import DeviceLogin.Proofs.Repetitions
import DeviceLogin.Proofs.Versions

set_option autoImplicit false

namespace DeviceLogin

def Json.methodEntry? : Json → Option (String × String)
  | .arr [.str method, _, _, .str version] => some (method, version)
  | _ => none

def Json.isMethodEntry (item : Json) : Bool := item.methodEntry?.isSome

def Json.versionsIn (items : List Json) (method : String) : List String :=
  ((items.filterMap methodEntry?).filter (·.1 == method)).map (·.2)

theorem Json.entry_iff (item : Json) (method version : String) :
    methodEntry? item = some (method, version) ↔ ∃ params results, item = .arr [.str method, params, results, .str version] := by
  constructor
  · intro found
    unfold methodEntry? at found
    split at found
    · next name params results number =>
      cases found
      exact ⟨params, results, rfl⟩
    · cases found
  · rintro ⟨params, results, rfl⟩
    rfl

theorem Json.mem_versions_iff (items : List Json) (method version : String) :
    version ∈ versionsIn items method ↔ ∃ params results, .arr [.str method, params, results, .str version] ∈ items := by
  have listed : version ∈ versionsIn items method ↔ (method, version) ∈ items.filterMap methodEntry? := by
    simp [versionsIn]
  rw [listed, List.mem_filterMap]
  constructor
  · rintro ⟨item, member, found⟩
    obtain ⟨params, results, rfl⟩ := (entry_iff item method version).mp found
    exact ⟨params, results, member⟩
  · rintro ⟨params, results, member⟩
    exact ⟨_, member, rfl⟩

namespace MethodTable

theorem entry_eq : entry? = Json.methodEntry? := by
  funext line
  cases line with
  | arr items =>
      by_cases four : items.length = 4
      · match items, four with
        | [method, _, _, version], _ => cases method <;> cases version <;> rfl
      · have refused : entry? (.arr items) = none := by rw [ entry?, Shape.methodEntry, Shape.refuse_tuple _ _ four]
        cases found : Json.methodEntry? (.arr items) with
        | none => exact refused
        | some entry =>
            obtain ⟨params, results, same⟩ := (Json.entry_iff _ entry.1 entry.2).mp found
            cases same
            exact absurd rfl four
  | _ => rfl

theorem get_of_entries (entries : List (String × String)) (method : String) :
    let versions := (entries.filter (·.1 == method)).map (·.2)
    Ordered.get? (entries.foldl addEntry []) method = if versions = [] then none else some versions.eraseDups := by
  induction entries using List.reverseRecOn with
  | nil => rfl
  | append_singleton entries entry ih =>
      obtain ⟨name, version⟩ := entry
      rw [List.foldl_append, List.foldl_cons, List.foldl_nil, addEntry, Ordered.get_put, List.filter_append]
      by_cases same : name = method
      · subst same
        have stored : (Ordered.get? (entries.foldl addEntry []) name).getD [] =
            ((entries.filter (·.1 == name)).map (·.2)).eraseDups := by
          rw [ih]
          cases (entries.filter (·.1 == name)).map (·.2) <;> rfl
        simp only [stored, if_true, ← erase_dups_snoc]
        simp
      · have none : [(name, version)].filter (·.1 == method) = [] := by simp [same]
        rw [if_neg same, none, List.append_nil]
        exact ih

theorem of_items_eq (items : List Json) : ofItems items = (items.filterMap Json.methodEntry?).foldl addEntry [] := by
  rw [ofItems, ofReply, entry_eq]
  rfl

theorem of_items_entries (items : List Json) : ofItems (items.filter (·.isMethodEntry)) = ofItems items := by
  rw [of_items_eq, of_items_eq, List.filterMap_filter]
  refine congrArg (List.foldl addEntry []) (List.filterMap_congr fun item _ => ?_)
  cases found : item.methodEntry? <;> simp [Json.isMethodEntry, found]

theorem get_of_items (items : List Json) (method : String) :
    Ordered.get? (ofItems items) method =
      if Json.versionsIn items method = [] then none else some (Json.versionsIn items method).eraseDups := by
  rw [of_items_eq, Json.versionsIn]
  exact get_of_entries (items.filterMap Json.methodEntry?) method

theorem has_iff_entry (items : List Json) (method : String) :
    Ordered.has (ofItems items) method = true ↔
      ∃ params results version, Json.arr [.str method, params, results, .str version] ∈ items := by
  have filled : Ordered.has (ofItems items) method = true ↔ ∃ version, version ∈ Json.versionsIn items method := by
    rw [Ordered.has, get_of_items]
    cases Json.versionsIn items method with
    | nil => simp
    | cons first rest => exact iff_of_true rfl ⟨first, List.mem_cons_self⟩
  rw [filled]
  simp only [Json.mem_versions_iff]
  constructor
  · rintro ⟨version, params, results, member⟩
    exact ⟨params, results, version, member⟩
  · rintro ⟨params, results, version, member⟩
    exact ⟨version, params, results, member⟩

end MethodTable

namespace Service

theorem version_of_items (service : Service) (items : List Json) (method : String)
    (known : service.methods = some (MethodTable.ofItems items)) :
    service.versionOf method =
      if Json.versionsIn items method = [] then defaultVersion
      else (Version.latest? (Json.versionsIn items method).eraseDups).getD defaultVersion := by
  rw [versionOf, known, Option.bind_some, MethodTable.get_of_items]
  split <;> rfl

-- What a service knows of the methods that a device advertises, whatever the entries of the list and in whatever
-- order. It has the methods of the entries that name one first of four items and a version last; any other entries could
-- be there or not. Of each method it holds the versions of these entries, each once, in the order in which they came
-- first. A method without an entry is called with version 1.0. A method whose versions have numbers of at most fifteen
-- digits is called with one of them, with which none compares as later; those that stand behind it are all earlier.
theorem load_advertises (service : Service) (world : World) (response : Http.Response) (after : Scene Channel)
    (sent : (Channel.send listing).perform ⟨service.channel, world⟩ = (.ok response, after))
    (accepted : response.status = 200) (members : List (String × Json)) (items : List Json)
    (lists : Http.Lists response.body members items) :
    ∃ loaded : Service, load.perform ⟨service, world⟩ = (.ok (Reply.ofResponse response), ⟨loaded, after.world⟩) ∧
      (∀ method, loaded.offers method = true ↔
        ∃ params results version, Json.arr [.str method, params, results, .str version] ∈ items) ∧
      (∀ others, others.filter (·.isMethodEntry) = items.filter (·.isMethodEntry) →
        loaded.methods = some (MethodTable.ofItems others)) ∧
      (∀ method, loaded.methods.bind (·.get? method) =
        if Json.versionsIn items method = [] then none else some (Json.versionsIn items method).eraseDups) ∧
      (∀ method, Json.versionsIn items method = [] → loaded.versionOf method = "1.0") ∧
      ∀ method, Json.versionsIn items method ≠ [] → (∀ version ∈ Json.versionsIn items method, Version.Short version) →
        ∃ before later, (Json.versionsIn items method).eraseDups = before ++ loaded.versionOf method :: later ∧
          (∀ version ∈ before, (Version.compare (loaded.versionOf method) version).positive = true ∨
            (Version.compare (loaded.versionOf method) version).equals 0 = true) ∧
          ∀ version ∈ later, (Version.compare (loaded.versionOf method) version).positive = true := by
  have made : Reply.ofResponse response = { status := response.status, results := some items } := Reply.of_body_lists lists
  let loaded := service.told after.focus response
  have known : loaded.methods = some (MethodTable.ofItems items) := by
    have table := told_known service after.focus response
      ((told_knows_iff service after.focus response).mpr ⟨accepted, by rw [made]⟩)
    rw [table, made, accepted, MethodTable.ofItems]
  refine ⟨loaded, load_sent service sent, fun method => ?_, fun others same => ?_, fun method => ?_, fun method none => ?_,
    fun method filled short => ?_⟩
  · rw [offers, known]
    exact MethodTable.has_iff_entry items method
  · rw [known, ← MethodTable.of_items_entries others, same, MethodTable.of_items_entries]
  · rw [known]
    exact MethodTable.get_of_items items method
  · rw [version_of_items loaded items method known, if_pos none, defaultVersion]
  · have brief : ∀ version ∈ (Json.versionsIn items method).eraseDups, Version.Short version :=
      fun version member => short version (List.mem_eraseDups.mp member)
    have stored : (Json.versionsIn items method).eraseDups ≠ [] := by
      obtain ⟨version, member⟩ := List.exists_mem_of_ne_nil _ filled
      exact List.ne_nil_of_mem (List.mem_eraseDups.mpr member)
    obtain ⟨before, latest, later, found, split, early, late⟩ :=
      Version.latest_found _ brief (nodup_erase_dups _) stored
    have version : loaded.versionOf method = latest := by
      rw [version_of_items loaded items method known, if_neg filled, found, Option.getD_some]
    rw [split] at brief
    have best : Version.Short latest := brief latest (by simp)
    rw [version]
    refine ⟨before, later, split, fun other member => ?_, fun other member => ?_⟩
    · exact Version.compare_of_le best (brief other (List.mem_append_left _ member)) (early other member)
    · have short := brief other (List.mem_append_right _ (List.mem_cons_of_mem _ member))
      exact (Version.compare_order latest other best short).2.mpr (late other member)

theorem load_advertises_latest :
    let body := "\x7b\"results\":[[\"ping\",[],[],\"1.2\"],[],[\"ping\",[],[],\"1.10\"]]\x7d"
    let device : List Http.Request → Http.Request → Http.Exchange := fun _ _ =>
      .answered { status := some 200, headers := [], chunks := [.text body], streamError := none, truncated := false }
    let channel : Channel := { url := "http://tv/sony/system" }
    ∃ reply loaded after,
      load.perform ⟨{ name := "system", channel := channel }, { device := device }⟩ = (.ok reply, ⟨loaded, after⟩) ∧
        loaded.offers "ping" = true ∧ loaded.versionOf "ping" = "1.10" := by
  intro body device channel
  have answered : ((channel.post listing []).run { device := device }).1.status = 200 ∧
      ((channel.post listing []).run { device := device }).1.body = body := by decide +kernel +zetaReduce
  rcases posted : (channel.post listing []).run { device := device } with ⟨response, after⟩
  rw [posted] at answered
  have sent := Channel.send_once channel listing [] _ posted fun _ asks => nomatch asks.2.2
  let entry (version : String) : Json := .arr [.str "ping", .arr [], .arr [], .str version]
  let items : List Json := [entry "1.2", .arr [], entry "1.10"]
  have read : Json.read? body = some (.obj [("results", .arr items)]) := by cbv
  have lists : Http.Lists response.body [("results", .arr items)] items := by
    rw [answered.2]
    refine ⟨read, rfl, fun codes found => ?_, .inr ⟨rfl, rfl⟩⟩
    cases found
  obtain ⟨loaded, ended, offered, -, -, -, latest⟩ :=
    load_advertises { name := "system", channel := channel } _ _ _ sent answered.1 _ items lists
  have versions : Json.versionsIn items "ping" = ["1.2", "1.10"] := rfl
  have short : ∀ version ∈ Json.versionsIn items "ping", Version.Short version := by
    unfold Version.Short
    decide
  obtain ⟨before, later, split, -, late⟩ := latest "ping" (by simp [versions]) short
  refine ⟨_, loaded, _, ended, (offered _).mpr ⟨_, _, _, List.mem_cons_self⟩, ?_⟩
  have once : (Json.versionsIn items "ping").eraseDups = ["1.2", "1.10"] := rfl
  rw [once] at split
  rcases before with _ | ⟨first, _ | ⟨second, others⟩⟩
  · obtain ⟨early, rest⟩ := List.cons.inj split
    have greater := late "1.10" (by simp [← rest])
    rw [← early] at greater
    have brief : Version.Short "1.2" ∧ Version.Short "1.10" := ⟨short _ (by simp [versions]), short _ (by simp [versions])⟩
    obtain ⟨index, agree, less⟩ := (Version.compare_order "1.2" "1.10" brief.1 brief.2).2.mp greater
    rcases index with _ | _ | index
    · exact absurd less (by decide)
    · exact absurd less (by decide)
    · exact absurd (agree 1 (by omega)) (by decide)
  · exact (List.cons.inj (List.cons.inj split).2).1.symm
  · simp at split

end Service

end DeviceLogin
