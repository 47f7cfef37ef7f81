import DeviceLogin.Proofs.Login.Course
import DeviceLogin.Proofs.Replies

set_option autoImplicit false

namespace DeviceLogin

open Act

namespace World

def given (world : World) (pairs : List (String × Option String)) : World :=
  { world with trace := world.trace ++ pairs.map fun pair => .property pair.1 pair.2 }

-- The receiver takes all of the properties, or those before the first one that it refuses.
inductive Handed (before : World) (pairs : List (String × Option String)) : Except Failure Unit → World → Prop
  | all (taken : ∀ pair ∈ pairs, before.refusesProperty pair.1 = none) : Handed before pairs (.ok ()) (before.given pairs)
  | refused {early late : List (String × Option String)} {pair : String × Option String} {failure : Failure}
      (order : pairs = early ++ pair :: late) (taken : ∀ pair ∈ early, before.refusesProperty pair.1 = none)
      (refused : before.refusesProperty pair.1 = some failure) :
      Handed before pairs (.error failure) (before.given early)

theorem given_nothing (world : World) : world.given [] = world := by simp [given]

theorem given_append (world : World) (first rest : List (String × Option String)) :
    (world.given first).given rest = world.given (first ++ rest) := by simp [given]

theorem handed_nothing (world : World) : world.Handed [] (.ok ()) world := by
  have none : world.Handed [] (.ok ()) (world.given []) := .all fun _ member => nomatch member
  rwa [given_nothing] at none

theorem handed_cons {world after : World} {pair : String × Option String} {rest : List (String × Option String)}
    {result : Except Failure Unit} (taken : world.refusesProperty pair.1 = none)
    (handed : (world.given [pair]).Handed rest result after) : world.Handed (pair :: rest) result after := by
  have both {others : List (String × Option String)} (later : ∀ other ∈ others, world.refusesProperty other.1 = none) :
      ∀ other ∈ pair :: others, world.refusesProperty other.1 = none :=
    List.forall_mem_cons.mpr ⟨taken, later⟩
  cases handed with
  | all later =>
      have all : world.Handed (pair :: rest) (.ok ()) (world.given ([pair] ++ rest)) := .all (both later)
      rwa [← given_append] at all
  | @refused early late refusing failure order later refused =>
      have stopped : world.Handed (pair :: rest) (.error failure) (world.given ([pair] ++ early)) :=
        .refused (by rw [order]; rfl) (both later) refused
      rwa [← given_append] at stopped

end World

namespace Provisioning

theorem push_all_handed (pairs : List (String × Option String)) (world : World) :
    world.Handed pairs ((pushAll pairs).perform world).1 ((pushAll pairs).perform world).2 := by
  induction pairs generalizing world with
  | nil => exact World.handed_nothing world
  | cons pair rest ih =>
      simp only [pushAll, World.push, perform_bind, perform_get]
      cases found : world.refusesProperty pair.1 with
      | some failure =>
          have early : World.Handed world (pair :: rest) (.error failure) (world.given []) :=
            .refused (show pair :: rest = [] ++ pair :: rest from rfl) (fun _ member => nomatch member) found
          rwa [World.given_nothing] at early
      | none =>
          have recorded : ((World.record (.property pair.1 pair.2)).run world).2 = world.given [pair] := rfl
          simp only [perform_always, recorded]
          exact World.handed_cons found (ih (world.given [pair]))

section Payloads

def isText : Option Json → Bool
  | none | some (.str _) => true
  | _ => false

def textual (names : List String) : Option Json → Option (List (String × Json))
  | some (.obj members) => if names.all fun name => isText (Ordered.get? members name) then some members else none
  | _ => none

def told (members : List (String × Json)) (name : String) : Option String := (Ordered.get? members name).bind Json.text?

theorem text_sorts : Shape.Sorts Shape.maybeText isText := by
  rintro (_ | value)
  · exact ⟨fun _ => rfl, fun bad => Bool.noConfusion bad⟩
  · cases value with
    | str text => exact ⟨fun _ => rfl, fun bad => Bool.noConfusion bad⟩
    | _ => exact ⟨fun good => Bool.noConfusion good, fun _ => ⟨_, rfl⟩⟩

theorem accept_texts (names : List String) (members : List (String × Json)) (distinct : names.Nodup)
    (kept : ∀ name ∈ names, Shape.dropped name = false)
    (texts : ∀ name ∈ names, isText (Ordered.get? members name) = true) :
    ∃ found, Shape.accept? (.object (Shape.maybeTexts names) true) (some (.obj members)) = some found ∧
      ∀ name ∈ names, found.member? name = Ordered.get? members name := by
  have named : (Shape.maybeTexts names).map (·.1) = names := by simp [Shape.maybeTexts, Function.comp_def]
  have passing : ∀ field ∈ Shape.maybeTexts names,
      Shape.check field.2 (Ordered.get? members field.1) = .ok (Ordered.get? members field.1) := by
    intro field listed
    obtain ⟨name, known, rfl⟩ := List.mem_map.mp listed
    exact (text_sorts _).1 (texts name known)
  obtain ⟨found, accepted, held⟩ := Shape.accept_object (Shape.maybeTexts names) members (by rwa [named])
    (fun field listed => ⟨_, passing field listed⟩) true
  refine ⟨.obj found, accepted, fun name known => ?_⟩
  have listed : (name, Shape.maybeText) ∈ Shape.maybeTexts names := List.mem_map_of_mem known
  exact (Except.ok.inj ((passing _ listed).symm.trans (held _ listed (kept name known)))).symm

theorem refuse_texts (names : List String) (value : Option Json) (other : textual names value = none) :
    Shape.accept? (.object (Shape.maybeTexts names) true) value = none := by
  rcases value with _ | value
  · rfl
  cases value with
  | obj members =>
      obtain ⟨name, known, bad⟩ : ∃ name ∈ names, isText (Ordered.get? members name) = false := by
        simpa [textual] using other
      have listed : (name, Shape.maybeText) ∈ Shape.maybeTexts names := List.mem_map_of_mem known
      exact Shape.refuse_object _ members _ listed ((text_sorts _).2 bad) true
  | _ => rfl

end Payloads

def networkFields : List String := ["netif", "hwAddr", "ipAddrV4", "ipAddrV6", "netmask", "gateway"]

def candidate? (reply : Reply) : Option Json :=
  match reply.first? with
  | some (.arr items) => items.head?
  | first => first

def interfaceIn? (reply : Reply) : Option (List (String × Json)) :=
  if reply.isError || !reply.hasResults then none else textual networkFields (candidate? reply)

def networkPairs (members : List (String × Json)) : List (String × Option String) :=
  [("netif", told members "netif"), ("hwAddress", told members "hwAddr"), ("ipv4Address", told members "ipAddrV4"),
    ("ipv6Address", told members "ipAddrV6"), ("netmask", told members "netmask"), ("gateway", told members "gateway")]

theorem properties_same (facts : List Fact) (found : Json) (members : List (String × Json))
    (held : ∀ fact ∈ facts, found.member? fact.field = Ordered.get? members fact.field) :
    properties facts found = properties facts (.obj members) := by
  refine List.filterMap_congr fun fact listed => ?_
  rw [held fact listed]
  rfl

theorem textual_split (names : List String) (value : Option Json) :
    textual names value = none ∨ ∃ members, value = some (.obj members) ∧ textual names value = some members ∧
      ∀ name ∈ names, isText (Ordered.get? members name) = true := by
  rcases value with _ | value
  · exact .inl rfl
  cases value with
  | obj members =>
      by_cases texts : (names.all fun name => isText (Ordered.get? members name)) = true
      · exact .inr ⟨members, rfl, if_pos texts, List.all_eq_true.mp texts⟩
      · exact .inl (if_neg texts)
  | _ => exact .inl rfl

theorem network_accepted (value : Option Json) :
    match textual networkFields value with
    | none => Shape.accept? Shape.networkSetting value = none
    | some members => ∃ setting, Shape.accept? Shape.networkSetting value = some setting ∧
        properties networkFacts setting = networkPairs members := by
  rcases textual_split networkFields value with none | ⟨members, rfl, some, texts⟩
  · rw [none]
    exact refuse_texts networkFields value none
  · rw [some]
    obtain ⟨setting, accepted, held⟩ := accept_texts networkFields members (by decide) (by decide) texts
    refine ⟨setting, accepted, ?_⟩
    have fields : ∀ fact ∈ networkFacts, fact.field ∈ networkFields := by decide
    exact properties_same networkFacts setting members fun fact listed => held fact.field (fields fact listed)

theorem setting_candidate (reply : Reply) :
    setting? reply =
      if reply.isError || !reply.hasResults then none else Shape.accept? Shape.networkSetting (candidate? reply) := by
  rw [setting?, candidate?]
  rcases reply.first? with _ | first
  · rfl
  · cases first <;> rfl

theorem setting_said (reply : Reply) :
    match interfaceIn? reply with
    | none => setting? reply = none
    | some members => ∃ setting, setting? reply = some setting ∧
        properties networkFacts setting = networkPairs members := by
  rw [interfaceIn?, setting_candidate]
  cases reply.isError || !reply.hasResults with
  | true => rfl
  | false => exact network_accepted (candidate? reply)

def asking (plan : Plan) (netif : String) : Act (Scene Site) Reply :=
  Site.onService (Service.ask plan.refusals networkMethod [.obj [("netif", .str netif)]])

inductive Asks (plan : Plan) : List String → Scene Site → List Reply → Scene Site → Prop
  | none (scene : Scene Site) : Asks plan [] scene [] scene
  | next {netif : String} {rest : List String} {scene middle after : Scene Site} {reply : Reply} {replies : List Reply}
      (asked : (asking plan netif).perform scene = (.ok reply, middle)) (later : Asks plan rest middle replies after) :
      Asks plan (netif :: rest) scene (reply :: replies) after

inductive Searched (plan : Plan) (names : List String) (scene : Scene Site) :
    Except Failure (Option Json) → Scene Site → Prop
  | found {early late : List String} {netif : String} {replies : List Reply} {reply : Reply} {setting : Json}
      {middle after : Scene Site} (order : names = early ++ netif :: late) (before : Asks plan early scene replies middle)
      (unfit : ∀ reply ∈ replies, setting? reply = none) (asked : (asking plan netif).perform middle = (.ok reply, after))
      (fits : setting? reply = some setting) : Searched plan names scene (.ok (some setting)) after
  | none {replies : List Reply} {after : Scene Site} (asked : Asks plan names scene replies after)
      (unfit : ∀ reply ∈ replies, setting? reply = none) : Searched plan names scene (.ok none) after
  | failed {early late : List String} {netif : String} {replies : List Reply} {failure : Failure}
      {middle after : Scene Site} (order : names = early ++ netif :: late) (before : Asks plan early scene replies middle)
      (unfit : ∀ reply ∈ replies, setting? reply = none)
      (asked : (asking plan netif).perform middle = (.error failure, after)) :
      Searched plan names scene (.error failure) after

theorem searched_cons {plan : Plan} {netif : String} {rest : List String} {scene middle after : Scene Site} {reply : Reply}
    {result : Except Failure (Option Json)} (asked : (asking plan netif).perform scene = (.ok reply, middle))
    (unfit : setting? reply = none) (searched : Searched plan rest middle result after) :
    Searched plan (netif :: rest) scene result after := by
  cases searched with
  | found order before others last fits =>
      exact .found (by rw [order]; rfl) (.next asked before) (List.forall_mem_cons.mpr ⟨unfit, others⟩) last fits
  | none later others => exact .none (.next asked later) (List.forall_mem_cons.mpr ⟨unfit, others⟩)
  | failed order before others last =>
      exact .failed (by rw [order]; rfl) (.next asked before) (List.forall_mem_cons.mpr ⟨unfit, others⟩) last

theorem first_setting_searched (plan : Plan) (names : List String) (scene : Scene Site) :
    Searched plan names scene ((firstSetting plan names).perform scene).1 ((firstSetting plan names).perform scene).2 := by
  induction names generalizing scene with
  | nil => exact .none (.none scene) (List.forall_mem_nil _)
  | cons netif rest ih =>
      have alone : netif :: rest = [] ++ netif :: rest := rfl
      rw [firstSetting, perform_bind, ← asking]
      rcases asked : (asking plan netif).perform scene with ⟨result, middle⟩
      cases result with
      | error failure => exact .failed alone (.none scene) (List.forall_mem_nil _) asked
      | ok reply =>
          cases fits : setting? reply with
          | some setting =>
              simp only [fits]
              exact .found alone (.none scene) (List.forall_mem_nil _) asked fits
          | none =>
              simp only [fits]
              exact searched_cons asked fits (ih middle)

theorem say_performed (plan : Plan) (message : String) (scene : Scene Site) :
    ∃ told, scene.world.Logged told ∧ (say plan message).perform scene = (.ok (), ⟨scene.focus, told⟩) :=
  ⟨_, logged_write plan.logger .debug message {} scene.world (by decide), rfl⟩

theorem on_world_perform {σ α : Type} (act : Act World α) (scene : Scene σ) :
    (Scene.onWorld act).perform scene = ((act.perform scene.world).1, ⟨scene.focus, (act.perform scene.world).2⟩) := rfl

theorem read_network_perform (plan : Plan) (scene : Scene Site)
    (offered : scene.focus.service.offers networkMethod = true) :
    (readNetwork plan).perform scene =
      (firstSetting plan interfaces >>= fun setting? =>
        match setting? with
        | some setting => Scene.onWorld (pushAll (properties networkFacts setting))
        | none => say plan "No network interface reported its settings").perform scene := by
  change Act.perform (if !(scene.focus.service.offers networkMethod) then _ else _) scene = _
  rw [offered]
  rfl

theorem unfit_setting {replies : List Reply} (unfit : ∀ reply ∈ replies, setting? reply = none) (reply : Reply)
    (member : reply ∈ replies) : interfaceIn? reply = none := by
  have said := setting_said reply
  cases found : interfaceIn? reply with
  | none => rfl
  | some members =>
      rw [found] at said
      obtain ⟨setting, fits, -⟩ := said
      exact nomatch (unfit reply member).symm.trans fits

theorem fitting_setting {reply : Reply} {setting : Json} (fits : setting? reply = some setting) :
    ∃ members, interfaceIn? reply = some members ∧ properties networkFacts setting = networkPairs members := by
  have said := setting_said reply
  cases found : interfaceIn? reply with
  | none =>
      rw [found] at said
      exact nomatch said.symm.trans fits
  | some members =>
      rw [found] at said
      obtain ⟨accepted, known, pairs⟩ := said
      obtain rfl : setting = accepted := Option.some.inj (fits.symm.trans known)
      exact ⟨members, rfl, pairs⟩

-- A service that offers its network settings is asked for one interface after the other, and the first answer that
-- tells about an interface ends the search: its six fields, and nothing else, go to the receiver of properties. If no answer
-- tells about an interface, all four interfaces were asked for and nothing goes to the receiver. A call that throws ends the
-- search as well.
theorem first_interface_wins (plan : Plan) (scene : Scene Site)
    (offered : scene.focus.service.offers "getNetworkSettings" = true) :
    let ended := (readNetwork plan).perform scene
    (∃ early netif late replies middle reply after members,
      ["eth0", "wlan0", "eth1", "wlan1"] = early ++ netif :: late ∧
        Asks plan early scene replies middle ∧ (∀ reply ∈ replies, interfaceIn? reply = none) ∧
        (asking plan netif).perform middle = (.ok reply, after) ∧ interfaceIn? reply = some members ∧
        after.world.Handed (networkPairs members) ended.1 ended.2.world ∧ ended.2.focus = after.focus) ∨
    (∃ replies after,
      Asks plan ["eth0", "wlan0", "eth1", "wlan1"] scene replies after ∧ (∀ reply ∈ replies, interfaceIn? reply = none) ∧
        ended.1 = .ok () ∧ after.world.Logged ended.2.world ∧ ended.2.focus = after.focus) ∨
    (∃ early netif late replies middle failure,
      ["eth0", "wlan0", "eth1", "wlan1"] = early ++ netif :: late ∧
        Asks plan early scene replies middle ∧ (∀ reply ∈ replies, interfaceIn? reply = none) ∧
        (asking plan netif).perform middle = (.error failure, ended.2) ∧ ended.1 = .error failure) := by
  intro ended
  have searched := first_setting_searched plan interfaces scene
  have course : ended = _ := read_network_perform plan scene offered
  rw [perform_bind] at course
  rcases found : (firstSetting plan interfaces).perform scene with ⟨result, after⟩
  simp only [found] at searched course
  cases searched with
  | @found early late netif replies reply setting middle after order before unfit asked fits =>
      obtain ⟨members, told, pairs⟩ := fitting_setting fits
      simp only [on_world_perform, pairs] at course
      refine .inl ⟨early, netif, late, replies, middle, reply, after, members, order, before, unfit_setting unfit, asked,
        told, ?_, by rw [course]⟩
      rw [course]
      exact push_all_handed (networkPairs members) after.world
  | @none replies after asked unfit =>
      obtain ⟨told, logged, said⟩ := say_performed plan "No network interface reported its settings" after
      simp only [said] at course
      exact .inr (.inl ⟨replies, after, asked, unfit_setting unfit, by rw [course], by rwa [course], by rw [course]⟩)
  | @failed early late netif replies failure middle after order before unfit asked =>
      simp only at course
      exact .inr (.inr ⟨early, netif, late, replies, middle, failure, order, before, unfit_setting unfit,
        by rw [course, asked], by rw [course]⟩)

theorem first_interface_wins_second :
    let plan : Plan := { settings := { deviceAddress := .absent } }
    let service : Service :=
      { name := "system", channel := { url := "http://tv/sony/system" }, methods := some [("getNetworkSettings", ["1.0"])] }
    let answer (body : String) : Http.Exchange :=
      .answered { status := some 200, headers := [], chunks := [.text body], streamError := none, truncated := false }
    let world : World :=
      { device := fun asked _ =>
          if asked.isEmpty then answer "\x7b\"result\":[[]]\x7d"
          else answer "\x7b\"result\":[[\x7b\"netif\":\"wlan0\",\"hwAddr\":\"00-11\"\x7d]]\x7d" }
    let scene : Scene Site := ⟨⟨service, .documents {}⟩, world⟩
    let ended := (readNetwork plan).perform scene
    scene.focus.service.offers "getNetworkSettings" = true ∧ ended.1.toOption = some () ∧
      ended.2.world.asked.length = 2 ∧
      ∃ netif middle reply after members, (asking plan netif).perform middle = (.ok reply, after) ∧
        interfaceIn? reply = some members ∧ after.world.Handed (networkPairs members) ended.1 ended.2.world := by
  intro plan service answer world scene ended
  have told : ended.1.toOption = some () := by decide +kernel +zetaReduce
  have second : (((asking plan "wlan0").perform ((asking plan "eth0").perform scene).2).1.toOption.bind
      interfaceIn?).isSome = true := by decide +kernel +zetaReduce
  refine ⟨rfl, told, by decide +kernel +zetaReduce, ?_⟩
  rcases first_interface_wins plan scene rfl with found | none | failed
  · obtain ⟨-, netif, -, -, middle, reply, after, members, -, -, -, asked, fits, handed, -⟩ := found
    exact ⟨netif, middle, reply, after, members, asked, fits, handed⟩
  · obtain ⟨replies, after, asks, unfit, -⟩ := none
    cases asks with
    | next first later =>
        cases later with
        | next last _ =>
            rw [first, last] at second
            simp [Except.toOption, unfit] at second
  · obtain ⟨-, -, -, -, -, failure, -, -, -, -, failed⟩ := failed
    have failing : ended.1 = .error failure := failed
    rw [failing] at told
    exact nomatch told

end Provisioning

end DeviceLogin
