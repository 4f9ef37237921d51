/-
JSON: values, text, and reading other types out of values.
-/
import ClusterAudit.Json.Decode
import ClusterAudit.Json.Limits
import ClusterAudit.Json.Printer
import ClusterAudit.Json.Reader
