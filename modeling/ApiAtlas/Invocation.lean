import ApiAtlas.Config

/-!
# Settings of one invocation

**Definitions.** What the command line says takes precedence over the configuration: a selected
configuration file, another access level, another title.  An empty title says nothing.
-/

namespace ApiAtlas

/-- What an invocation says apart from the configuration file. -/
structure Invocation where
  /-- The configuration file that is selected. -/
  configPath : Option Path
  /-- The least access level to use. -/
  minimumAccess : Option Access
  /-- The title to use. -/
  projectTitle : Option Text
deriving DecidableEq, Repr, Inhabited

namespace Invocation

section Defs

/-- An invocation that says nothing. -/
def plain : Invocation :=
  ⟨none, none, none⟩

/-- The title that is said. -/
def title? (i : Invocation) : Option Text :=
  Profile.firstGiven [i.projectTitle]

/-- Whether nothing in a configuration is replaced. -/
def isNeutral (i : Invocation) : Bool :=
  i.minimumAccess.isNone && i.title?.isNone

/-- The configuration with what is said in place of its own. -/
def apply (i : Invocation) (c : Config) : Config :=
  { c with
    minimumAccess := i.minimumAccess.getD c.minimumAccess
    projectTitle := i.title?.orElse fun _ => c.projectTitle }

end Defs

end Invocation

end ApiAtlas
