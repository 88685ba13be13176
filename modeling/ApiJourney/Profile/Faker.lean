-- SUMMARY: Libraries of fake data, and what the dotted names of their members stand for.
import ApiJourney.Failure
import ApiJourney.Profile.Generator
import ApiJourney.Text.Case
import ApiJourney.Text.Search

/-!
# Fake data

Fake data come from a library. It makes an instance for each locale, which has members, and a
member may have members of its own; some of them can be called. What a call gives may depend on
what the library remembers of the calls before.

A generator names a member by a dotted path. A path of which a part is unknown falls back to its
last part, written in lower case with underscores.
-/

namespace ApiJourney

open ApiJourney.Text

/-- A library of fake data, with what it remembers and what can be reached in it. -/
structure Faker where
  State : Type
  Member : Type
  /-- An instance for a locale, repeatable when there is a seed; an unknown locale has no
      attributes. -/
  create : Option String → Option Int → State → Except Fault Member × State
  /-- What a member has under a name. -/
  member : Member → String → Except Fault Member
  isNull : Member → Bool
  isCallable : Member → Bool
  /-- A call with positional and with named arguments. -/
  call : Member → List Value → Entries → State → Except Fault Value × State

namespace Faker

variable (F : Faker)

/-! ## Names -/

/-- An underscore before each capital but at the start. -/
def splitCapitals : List Char → List Char
  | [] => []
  | c :: rest => c :: rest.flatMap fun d => if 'A' ≤ d && d ≤ 'Z' then ['_', d] else [d]

def snakeCase (name : List Char) : List Char :=
  lower (splitCapitals name)

/-- What is reached from a member by one name after the other. -/
def follow (m : F.Member) : List String → Except Fault F.Member
  | [] => .ok m
  | name :: rest => do
    let next ← F.member m name
    follow next rest

/-- What a dotted path stands for on an instance, if it is known. -/
def target (fake : F.Member) (path : String) : Except Fault (Option F.Member) :=
  let parts := split ['.'] none path.toList
  match F.follow fake (parts.map String.ofList) with
  | .ok m => .ok (some m)
  | .error .noAttribute =>
    match F.member fake (String.ofList (snakeCase (parts.getLast?.getD []))) with
    | .ok m => .ok (if F.isNull m then none else some m)
    | .error .noAttribute => .ok none
    | .error f => .error f
  | .error f => .error f

/-! ## Instances -/

/-- The instances made so far, by their locales, and what the library remembers. -/
structure Instances where
  made : List (Option String × F.Member)
  state : F.State

variable {F}

/-- The instance of a locale, made when it is first asked for. -/
def Instances.forLocale (i : Instances F) (seed : Option Int) (locale : Option String) :
    Except Fault (F.Member × Instances F) :=
  match i.made.lookup locale with
  | some fake => .ok (fake, i)
  | none =>
    match F.create (Text.given? locale) seed i.state with
    | (.ok fake, state) => .ok (fake, ⟨(locale, fake) :: i.made, state⟩)
    | (.error f, _) => .error f

/-- What a generator of a profile calls. -/
def resolve (seed : Option Int) (generator profile : String) (o : FakerOptions) (i : Instances F) :
    Attempt (F.Member × Instances F) :=
  match i.forLocale seed o.locale with
  | .error .noAttribute =>
    .error (.misconfigured (.unknownLocale generator profile (o.locale.getD "None")))
  | .error f => .error (.fault f)
  | .ok (fake, i) =>
    match F.target fake o.method with
    | .error f => .error (.fault f)
    | .ok none => .error (.misconfigured (.unknownProvider generator profile o.method))
    | .ok (some m) =>
      if F.isCallable m then .ok (m, i)
      else .error (.misconfigured (.notCallable generator profile o.method))

end Faker

end ApiJourney
