import ThreatFusion.Py.Text
/-
# Rows of the security audit (`db/analyst_security_audit.py`)

`audit_events` with its twelve columns, in their order.
-/
namespace ThreatFusion.Audit

def AUDIT_EVENT_SCHEMA_VERSION : String := "analyst_security_audit_event_v1"
def AUDIT_REPOSITORY_SCHEMA_VERSION : ℤ := 1
def AUDIT_REPOSITORY_SCHEMA_IDENTITY : String := "analyst_security_audit_sqlite_v1"

structure AuditRow where
  schemaVersion : String
  auditEventId : String
  eventTime : String
  correlationId : Option String
  eventType : String
  processingStage : String
  outcome : String
  reasonCode : String
  actorId : Option String
  credentialSha256 : Option String
  requestRoute : Option String
  bodySha256 : Option String
deriving DecidableEq

end ThreatFusion.Audit
