import DeviceLogin.Proofs.Calls
import DeviceLogin.Proofs.Lookups

set_option autoImplicit false

namespace DeviceLogin

open Act

-- What is asked of a service.
structure Demand where
  method : String
  params : List Json

def Call.demand (call : Call) : Demand := ⟨call.method, call.params⟩

def Demand.Reaches (methods : Option MethodTable) (demand : Demand) : Prop :=
  demand.method = Service.listMethods ∨ ∀ table ∈ methods, demand.method ∈ Ordered.keys table

instance Demand.decidableReaches (methods : Option MethodTable) : DecidablePred (Demand.Reaches methods) :=
  fun _ => inferInstanceAs (Decidable (_ ∨ _))

namespace Service

def handed : Service → List Demand → List Call
  | _, [] => []
  | service, demand :: rest =>
      if demand.Reaches service.methods then
        (service.nextCall demand.method demand.params).1 :: handed (service.nextCall demand.method demand.params).2 rest
      else handed service rest

inductive Answered (methods : Option MethodTable) :
    List Demand → List (Except Failure Http.Response) → List (Except Failure Reply) → Prop
  | none : Answered methods [] [] []
  | handed {demand : Demand} {demands : List Demand} {result : Except Failure Http.Response}
      {results : List (Except Failure Http.Response)} {replies : List (Except Failure Reply)}
      (reaches : demand.Reaches methods) (rest : Answered methods demands results replies) :
      Answered methods (demand :: demands) (result :: results) (result.map Reply.ofResponse :: replies)
  | lacking {demand : Demand} {demands : List Demand} {results : List (Except Failure Http.Response)} {reply : Reply}
      {replies : List (Except Failure Reply)} (lacks : ¬ demand.Reaches methods) (status : reply.status = 501)
      (kind : reply.faultKind? = some .notImplemented) (rest : Answered methods demands results replies) :
      Answered methods (demand :: demands) results (.ok reply :: replies)

variable (service : Service) (demands : List Demand)

end Service

end DeviceLogin
