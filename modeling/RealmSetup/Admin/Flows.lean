import RealmSetup.Admin.Realms
import RealmSetup.Flow.Builder

/-!
# Flows on an admin server

An admin server takes the calls of a builder of flows as requests about the authentication of a realm.
-/

namespace RealmSetup.AdminClient

variable (c : AdminClient)

def authentication (realm : String) (segments : List String) : Url :=
  c.endpoint (realm :: "authentication" :: segments)

/-- Answers a request about the flows of a realm. -/
def serveOp (realm : String) : (op : Remote.Op) → SiteAttempt op.Result
  | .createFlow aliasName description kind =>
    create (c.authentication realm ["flows"]) <| .members
      [("alias", .text aliasName), ("description", .text description),
        ("providerId", .text kind.providerId), ("topLevel", .bool true), ("builtIn", .bool false)]
  | .copyFlow source dest =>
    create (c.authentication realm ["flows", source, "copy"])
      (.members [("newName", .text dest)])
  | .listFlows => getJson (c.authentication realm ["flows"]) (Json.list FlowSummary.decoder)
  | .deleteFlow flowId => execute .delete (c.authentication realm ["flows", flowId]) .empty
  | .listExecutions aliasName =>
    getJson (c.authentication realm ["flows", aliasName, "executions"]) (Json.list Execution.decoder)
  | .addExecution parent provider =>
    execute .post (c.authentication realm ["flows", parent, "executions", "execution"])
      (.json (.members [("provider", .text provider)]))
  | .addSubflow parent aliasName kind =>
    execute .post (c.authentication realm ["flows", parent, "executions", "flow"]) <| .json <|
      .members
        [("alias", .text aliasName), ("type", .text kind.providerId),
          ("provider", .text "registration-page-form"), ("description", .text "")]
  | .updateExecution parent row =>
    execute .put (c.authentication realm ["flows", parent, "executions"]) (.json row.json)
  | .raisePriority id =>
    execute .post (c.authentication realm ["executions", id.text, "raise-priority"]) .empty
  | .lowerPriority id =>
    execute .post (c.authentication realm ["executions", id.text, "lower-priority"]) .empty
  | .createConfig id config =>
    execute .post (c.authentication realm ["executions", id.text, "config"]) (.json config.json)
  | .getConfig configId =>
    getJson (c.authentication realm ["config", configId]) AuthenticatorConfig.decoder
  | .bindBrowserFlow aliasName =>
    c.updateRealm realm (.members [("realm", .text realm), ("browserFlow", .text aliasName)])
  | .browserFlow => c.realmEntryPoint realm

def serveFlows : (call : FlowSite.Call) → Program Site (FlowSite.Answer call)
  | .inl call => (c.serveOp call.realm call.op).run
  | .inr n => Offers.perform (I := Journal) n

def withFlows {α : Type} (work : Builder.Work α) : SiteAttempt α :=
  .ofProgram (work.run.interpret c.serveFlows)

end RealmSetup.AdminClient
