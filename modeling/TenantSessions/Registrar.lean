import TenantSessions.Session

/-! A registrar holds the dialogues of session operations with one cache. -/

namespace TenantSessions

/-- What a registrar can be asked to do. -/
inductive Request where
  | create (who : Identity) (bearer apiToken : String) (life : Lifetime)
  | checkBearer (who : Identity) (bearer : String)
  | resolve (apiToken : String)
  | revoke (who : Identity)
  | revokeOrg (org : Id)
deriving DecidableEq, Repr

namespace Request

/-- What a registrar answers when it does as asked. -/
@[reducible] def Answer : Request → Type
  | .create .. => Unit
  | .checkBearer .. => Unit
  | .resolve _ => Identity
  | .revoke _ => Unit
  | .revokeOrg _ => Nat

/-- The dialogue of a request, where bindings get a lifetime of their own. -/
def dialogue (bindingLife : Lifetime) : (request : Request) → Dialogue request.Answer
  | .create who bearer apiToken life => Session.create who bearer apiToken bindingLife life
  | .checkBearer who bearer => Session.checkBearer who bearer
  | .resolve apiToken => Session.resolve apiToken
  | .revoke who => Session.revoke who
  | .revokeOrg org => Session.revokeOrg org

end Request

/-- A cache, and the lifetime that the bindings of API tokens get there. -/
structure Registrar (σ : Type) where
  cache : σ
  bindingLife : Lifetime

namespace Registrar

/-- A registrar over a cache; bindings live for a day unless a lifetime is given. -/
def new {σ : Type} (cache : σ) (bindingLife : Option Lifetime) : Registrar σ where
  cache := cache
  bindingLife := bindingLife.getD Lifetime.day

/-- Serves one request. -/
def serve {σ : Type} [Cache σ] (registrar : Registrar σ) (request : Request) :
    Except Failure request.Answer × Registrar σ :=
  -- Only the cache changes; the lifetime of bindings is set once.
  match (request.dialogue registrar.bindingLife).hold registrar.cache with
  | (answer, cache) => (answer, { registrar with cache := cache })

/-- A new registrar over the same cache. -/
def reopen {σ : Type} (registrar : Registrar σ) (bindingLife : Option Lifetime) : Registrar σ :=
  new registrar.cache bindingLife

end Registrar

end TenantSessions
