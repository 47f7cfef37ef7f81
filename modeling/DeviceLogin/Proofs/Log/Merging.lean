import DeviceLogin.Log.Context
import DeviceLogin.Proofs.MemberNames

set_option autoImplicit false

namespace DeviceLogin.Log.Context

def lastSaid (part : Context → Option String) (contexts : List Context) : Option String :=
  (contexts.filterMap part).getLast?

def allMetadata (contexts : List Context) : Ordered Json := contexts.flatMap (·.metadata)

-- The one context that some contexts come to, each lying on those before it.
structure Overlaid (contexts : List Context) (whole : Context) : Prop where
  category : whole.category = lastSaid Context.category contexts
  device : whole.device = lastSaid Context.device contexts
  service : whole.service = lastSaid Context.service contexts
  operation : whole.operation = lastSaid Context.operation contexts
  metadata : Ordered.Gathered (allMetadata contexts) whole.metadata

def merged (contexts : List Context) : Context :=
  { category := lastSaid Context.category contexts
    device := lastSaid Context.device contexts
    service := lastSaid Context.service contexts
    operation := lastSaid Context.operation contexts
    metadata := Ordered.asMembers (allMetadata contexts) }

theorem overlaid_iff (contexts : List Context) (whole : Context) : Overlaid contexts whole ↔ whole = merged contexts := by
  constructor
  · rintro ⟨category, device, service, operation, metadata⟩
    rw [merged, ← category, ← device, ← service, ← operation, ← (Ordered.gathered_iff _ _).mp metadata]
  · rintro rfl
    exact ⟨rfl, rfl, rfl, rfl, Ordered.as_members_gathered _⟩

theorem merged_distinct (contexts : List Context) : (Ordered.keys (merged contexts).metadata).Nodup :=
  Ordered.nodup_keys_as_members _

theorem last_said_append (part : Context → Option String) (lower upper : List Context) :
    lastSaid part (lower ++ upper) = (lastSaid part upper).or (lastSaid part lower) := by
  rw [lastSaid, List.filterMap_append, List.getLast?_append, lastSaid, lastSaid]

theorem last_said_single (part : Context → Option String) (context : Context) : lastSaid part [context] = part context := by
  cases said : part context <;> simp [lastSaid, said]

theorem last_said_inside (part : Context → Option String) (lower between upper : List Context)
    (said : part (merged between) = lastSaid part between) :
    lastSaid part (lower ++ [merged between] ++ upper) = lastSaid part (lower ++ between ++ upper) := by
  rw [last_said_append, last_said_append, last_said_single, said, last_said_append, last_said_append]

theorem all_metadata_append (lower upper : List Context) :
    allMetadata (lower ++ upper) = allMetadata lower ++ allMetadata upper := List.flatMap_append

theorem all_metadata_single (context : Context) : allMetadata [context] = context.metadata := List.flatMap_singleton _ _

theorem merged_inside (lower between upper : List Context) :
    merged (lower ++ [merged between] ++ upper) = merged (lower ++ between ++ upper) := by
  have metadata : Ordered.asMembers (allMetadata (lower ++ [merged between] ++ upper)) =
      Ordered.asMembers (allMetadata (lower ++ between ++ upper)) := by
    rw [all_metadata_append, all_metadata_append, all_metadata_single, all_metadata_append, all_metadata_append]
    exact Ordered.as_members_inside _ _ _
  rw [merged, last_said_inside _ lower between upper rfl, last_said_inside _ lower between upper rfl,
    last_said_inside _ lower between upper rfl, last_said_inside _ lower between upper rfl, metadata]
  rfl

theorem overlay_merged (lower upper : Context) (distinct : (Ordered.keys lower.metadata).Nodup) :
    lower.overlay upper = merged [lower, upper] := by
  have said (part : Context → Option String) : (part upper <|> part lower) = lastSaid part [lower, upper] := by
    rw [← List.singleton_append, last_said_append, last_said_single, last_said_single, Option.orElse_eq_orElse, Option.orElse_eq_or]
  have first : Ordered.putAll [] lower.metadata = lower.metadata := Ordered.put_all_distinct [] _ (by simpa using distinct)
  have metadata : Ordered.inMemberOrder (Ordered.putAll lower.metadata upper.metadata) =
      Ordered.asMembers (allMetadata [lower, upper]) := by
    rw [← List.singleton_append, all_metadata_append, all_metadata_single, all_metadata_single, Ordered.asMembers,
      Ordered.put_all_append, first]
  rw [overlay, said Context.category, said Context.device, said Context.service, said Context.operation, metadata]
  rfl

theorem overlay_assoc (lower middle upper : Context) (low : (Ordered.keys lower.metadata).Nodup)
    (mid : (Ordered.keys middle.metadata).Nodup) :
    (lower.overlay middle).overlay upper = lower.overlay (middle.overlay upper) := by
  calc (lower.overlay middle).overlay upper
      = merged [merged [lower, middle], upper] := by
        rw [overlay_merged lower middle low, overlay_merged _ upper (merged_distinct _)]
    _ = merged [lower, middle, upper] := merged_inside [] [lower, middle] [upper]
    _ = merged [lower, merged [middle, upper]] := (merged_inside [lower] [middle, upper] []).symm
    _ = lower.overlay (middle.overlay upper) := by
        rw [overlay_merged middle upper mid, overlay_merged lower _ low]

theorem overlay_nothing (contexts : List Context) : ({} : Context).overlay (merged contexts) = merged contexts := by
  calc ({} : Context).overlay (merged contexts)
      = merged [{}, merged contexts] := overlay_merged {} _ List.nodup_nil
    _ = merged ({} :: contexts) := by simpa using merged_inside [{}] contexts []
    _ = merged contexts := rfl

end DeviceLogin.Log.Context
