-- SUMMARY: Profiles of synthetic users.
import ApiJourney.Profile.Generator

/-!
# Profiles

A profile has a weight, a source of data rows, variables and generators. A
profile document holds at least one profile, and their names are distinct.
-/

namespace ApiJourney

open Schema

structure Profile where
  name : String
  weight : Float
  dataSource : Option String
  data : Option (List Entries)
  bindings : Entries
  generators : List (String × Generator)

namespace Profile

def read (v : Value) : Verdict Profile :=
  record "Profile" v fun es =>
    Profile.mk
      <$> required es ["name"] nonEmptyText
      <*> required es ["weight"] (numberAtLeast 0)
      <*> optional es ["dataSource", "data_source"] text
      <*> optional es ["data"] (list values)
      <*> withDefault es ["variables"] [] values
      <*> withDefault es ["generators"] [] (dictionary Generator.read)

def toValue (p : Profile) : Value :=
  .object [
    ("name", .text p.name),
    ("weight", .float p.weight),
    ("dataSource", .ofOption .text p.dataSource),
    ("data", .ofOption (Value.ofList .dict) p.data),
    ("variables", .dict p.bindings),
    ("generators", .ofMap Generator.toValue p.generators)]

end Profile

structure ProfileConfig where
  id : Option String
  name : Option String
  profiles : List Profile

namespace ProfileConfig

/-- Refuses profiles that share a name. -/
def checkNames (ps : List Profile) : Verdict (List Profile) :=
  let names := ps.map Profile.name
  if names.eraseDups.length = names.length then .accepted ps
  else
    let list := ((Value.texts names).written?).getD ""
    .refuse (.rule s!"Profile names must be unique, got {list}")

def read (v : Value) : Verdict ProfileConfig :=
  record "ProfileConfig" v fun es =>
    ProfileConfig.mk
      <$> optional es ["id"] text
      <*> optional es ["name"] text
      <*> required es ["profiles"] (fun v => (nonEmptyList Profile.read v).andThen checkNames)

def toValue (c : ProfileConfig) : Value :=
  .object [
    ("id", .ofOption .text c.id),
    ("name", .ofOption .text c.name),
    ("profiles", .ofList Profile.toValue c.profiles)]

end ProfileConfig

/-! ## Users -/

/-- A synthetic user that was drawn from a profile. -/
structure UserContext where
  profile : String
  data : Entries
  bindings : Entries
  generated : Entries

namespace UserContext

def read (v : Value) : Verdict UserContext :=
  record "UserContext" v fun es =>
    UserContext.mk
      <$> required es ["profileName", "profile_name"] text
      <*> withDefault es ["userData", "user_data"] [] values
      <*> withDefault es ["variables"] [] values
      <*> withDefault es ["generatedValues", "generated_values"] [] values

def toValue (u : UserContext) : Value :=
  .object [
    ("profileName", .text u.profile),
    ("userData", .dict u.data),
    ("variables", .dict u.bindings),
    ("generatedValues", .dict u.generated)]

end UserContext

/-- How many users were drawn, in all and from each profile. -/
structure ProfileStats where
  total : Int
  counts : List (String × Int)
  percentages : List (String × Float)

namespace ProfileStats

def read (v : Value) : Verdict ProfileStats :=
  record "ProfileDistributionStats" v fun es =>
    ProfileStats.mk
      <$> withDefault es ["totalUsers", "total_users"] 0 integer
      <*> withDefault es ["profileCounts", "profile_counts"] [] (dictionary integer)
      <*> withDefault es ["profilePercentages", "profile_percentages"] [] (dictionary number)

def toValue (s : ProfileStats) : Value :=
  .object [
    ("totalUsers", .int s.total),
    ("profileCounts", .ofMap .int s.counts),
    ("profilePercentages", .ofMap .float s.percentages)]

end ProfileStats

end ApiJourney
