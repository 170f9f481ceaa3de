import Clearance.Ability.Builder

/-!
# Policies

Each role has a policy: the rules that hold for a user in that role. A registry turns policies
into abilities that share its resolver and settings.
-/

namespace Clearance

structure UserContext where
  userId : UserId
deriving DecidableEq, Repr

abbrev Policy := UserContext → AbilityBuilder → AbilityBuilder

namespace Policy

/-- Everything, except that an organization of somebody else is neither updated nor handed over. -/
def admin : Policy := fun user b =>
  let owned := some (Condition.ownedBy user.userId)
  let b := b.allow .manage .all none
  let b := b.deny .transferOwnership (.type .organization) none
  let b := b.because "only the organization owner can transfer ownership"
  let b := b.deny .update (.type .organization) none
  let b := b.because "only the organization owner can update it"
  let b := b.allow .transferOwnership (.type .organization) owned
  b.allow .update (.type .organization) owned

/-- Sees users and projects, creates projects, updates its own and never deletes one. -/
def member : Policy := fun user b =>
  let b := b.allow .get (.type .user) none
  let b := b.allow .get (.type .project) none
  let b := b.allow .create (.type .project) none
  let b := b.allow .update (.type .project) (some (Condition.ownedBy user.userId))
  let b := b.deny .delete (.type .project) none
  b.because "members cannot delete projects"

/-- Everything about billing and nothing else. -/
def billing : Policy := fun _ b =>
  b.allow .manage (.type .billing) none

end Policy

def Role.policy : Role → Policy
  | admin => Policy.admin
  | member => Policy.member
  | billing => Policy.billing

/-- The resolver and settings that abilities built from policies share. -/
structure PolicyRegistry where
  resolver : Resolver
  config : AbilityConfig

namespace PolicyRegistry

/-- A registry that resolves instances by their variant. -/
def new (config : AbilityConfig) : PolicyRegistry := ⟨Resolver.byVariant, config⟩

/-- The registry with default settings. -/
def default : PolicyRegistry := new AbilityConfig.default

def buildAbility (g : PolicyRegistry) (role : Role) (user : UserContext) : Ability :=
  (role.policy user (AbilityBuilder.new g.config)).build g.resolver

def buildNotices (g : PolicyRegistry) (role : Role) (user : UserContext) : List Notice :=
  [.builtAbility role user.userId (g.buildAbility role user).rules.length]

end PolicyRegistry

/-- The ability of a role for a user, with default settings. -/
def defineAbilityFor (user : UserId) (role : Role) : Ability :=
  PolicyRegistry.default.buildAbility role ⟨user⟩

end Clearance
