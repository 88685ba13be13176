-- SUMMARY: Merging of objects, the variables of a user, and the context of templates.
import ApiJourney.Moment
import ApiJourney.Profile.Basic
import ApiJourney.Value.Equality

/-!
# Variables of a user

Merging an object into another one puts its entries there. Where both hold an object, these are
merged in turn; anything else is replaced.

A user's variables come in layers, of which later ones win: those of the journey,
those of the environment under `env`, those of the profile, the generated values,
and the data row under `user` with the name of the profile. Templates see besides
an identifier and the time, made afresh for each request.
-/

namespace ApiJourney.Variables

/-! ## Merging -/

mutual

/-- The entries of the second object merged into the first. -/
def merge (target : Entries) : List (Value × Value) → Entries
  | [] => target
  | (k, v) :: rest => merge (target.insert k (mergeValue (target.find? k) v)) rest

/-- What takes the place of a value, if there is one. -/
def mergeValue (old : Option Value) : Value → Value
  | .dict es =>
    match old with
    | some (.dict fs) => .dict (merge fs es)
    | _ => .dict (merge [] es)
  | v => v

end

/-- Layers merged from first to last, so that later ones win. -/
def mergeAll (layers : List Entries) : Entries :=
  layers.foldl (fun merged layer => merge merged layer) []

/-! ## Layers -/

/-- The layer of the environment. -/
def environmentLayer (environment : Entries) : Entries :=
  [(.text "env", .dict environment)]

/-- The layers of a drawn user. -/
def userLayers (u : UserContext) : List Entries :=
  [u.bindings, u.generated,
   [(.text "user", .dict u.data), (.text "profile", .text u.profile)]]

/-- The variables of a user before any step has run. -/
def ofUser (user : Option UserContext) (journey environment : Entries) : Entries :=
  mergeAll ([journey, environmentLayer environment] ++ (user.map userLayers).getD [])

/-! ## Contexts -/

/-- Keys that templates do not see. -/
def isInternal : Value → Bool
  | .text s => "__".toList.isPrefixOf s.toList
  | _ => false

/-- The context that templates are filled from. -/
def context (fresh : Fresh) (sources : List Entries) : Entries :=
  let visible : Entries := (mergeAll sources).filter fun (k, _) => !isInternal k
  ((visible.put "$uuid" (.text fresh.uuid)).put "$timestamp" fresh.milliseconds).put "$isoTimestamp"
    (.text fresh.iso)

end ApiJourney.Variables
