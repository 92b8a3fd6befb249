import KeyCluster.Log.Entry

/-! What the log is told while servers are brought together. -/

namespace KeyCluster.Journal

/-- The name under which these messages are logged. -/
def logger : Text :=
  "kms_cluster.cluster.join"

/-- A host is about to be asked for its cluster. -/
def querying (host : Text) : Entry :=
  { level := Level.debug, logger, message := "Querying cluster status",
    fields := [("endpoint", .text host)] }

/-- A host is a member of a cluster. -/
def found (host : Text) (members : List Text) (size : Nat) : Entry :=
  { level := Level.info, logger,
    message := "Found " ++ Value.intText size ++ "-node cluster via " ++ host,
    fields := [("endpoint", .text host), ("members", .texts members), ("cluster_size", .int size)] }

/-- A host reports a cluster without members. -/
def empty (host : Text) : Entry :=
  { level := Level.warning, logger, message := host ++ " reported no cluster members",
    fields := [("endpoint", .text host)] }

/-- No cluster exists yet, so the others will join this host. -/
def elected (host : Text) : Entry :=
  { level := Level.info, logger, message := "No multi-node cluster found, electing " ++ host,
    fields := [("endpoint", .text host)] }

/-- A host is about to be added to a cluster. -/
def adding (host : Text) (hosts : List Text) : Entry :=
  { level := Level.info, logger, message := "Adding " ++ host ++ " to cluster",
    fields := [("endpoint", .text host), ("hosts", .texts hosts)] }

end KeyCluster.Journal
