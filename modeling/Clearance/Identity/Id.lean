import Clearance.Identity.Uuid

/-!
# Typed identifiers

The identifier of a user, a project, an organization or an invite. The kind of entity is part of
the type, so that one cannot stand for another.
-/

namespace Clearance

inductive Entity where
  | user
  | project
  | organization
  | invite
deriving DecidableEq, Repr

structure Id (entity : Entity) where
  uuid : Uuid
deriving DecidableEq, Repr

abbrev UserId := Id .user

abbrev ProjectId := Id .project

abbrev OrgId := Id .organization

abbrev InviteId := Id .invite

def Entity.idName : Entity → String
  | user => "UserId"
  | project => "ProjectId"
  | organization => "OrgId"
  | invite => "InviteId"

namespace Id

def text {entity : Entity} (i : Id entity) : String :=
  i.uuid.text

def debugText {entity : Entity} (i : Id entity) : String :=
  entity.idName ++ "(" ++ i.text ++ ")"

def compare {entity : Entity} (i j : Id entity) : Ordering :=
  i.uuid.compare j.uuid

def generate (entity : Entity) (random : BitVec 128) : Id entity :=
  ⟨Uuid.ofRandom random⟩

end Id

end Clearance
