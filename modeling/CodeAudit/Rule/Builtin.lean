import CodeAudit.Rule.Basic

/-!
# Built-in Rules

The rules that every project is checked with.

Each of them stands under the name of a rule file, and they come in the order of these names.

## Main definitions

* `Builtin.rules`: The rules with the names of their files.
-/

namespace CodeAudit

namespace Builtin

/-- Operating system command executed with dynamically built input. -/
def commandInjection : Rule where
  id := "SEC-005"
  name := "Command Injection"
  description := "Operating system command executed with dynamically built input."
  severity := .critical
  category := .injection
  compliance :=
    [⟨.owasp, "A03:2021", "Injection"⟩,
     ⟨.cwe, "CWE-78", "Improper Neutralization of Special Elements used in an OS Command"⟩]
  patterns :=
    [⟨.regex, "Runtime\\.getRuntime\\(\\)\\.exec\\(\\s*[^\")]*\\+",
       ["java", "kt"], none⟩,
     ⟨.regex, "\\bos\\.system\\s*\\(\\s*(f[\"']|[^)\"']*\\+)",
       ["py"], none⟩,
     ⟨.regex, "\\bsubprocess\\.(call|run|Popen|check_output)\\([^)]*shell\\s*=\\s*True",
       ["py"], some "subprocess invoked with shell=True"⟩,
     ⟨.regex, "\\bchild_process\\.exec\\(\\s*[^\"'\x60)]*\\+",
       ["js", "ts"], none⟩,
     ⟨.regex, "exec\\.Command\\(\\s*\"(sh|bash)\"\\s*,\\s*\"-c\"",
       ["go"], none⟩]
  quickFix :=
    some ⟨.refactor, "Pass arguments as a list and avoid invoking a shell",
      none⟩
  enabled := true
  custom := false

/-- Exception is caught and silently ignored. -/
def emptyCatch : Rule where
  id := "QUA-001"
  name := "Empty Catch Block"
  description := "Exception is caught and silently ignored."
  severity := .low
  category := .quality
  compliance :=
    [⟨.cwe, "CWE-390", "Detection of Error Condition Without Action"⟩,
     ⟨.soc2, "CC7.2", "System monitoring for anomalies"⟩]
  patterns :=
    [⟨.regex, "catch\\s*\\([^)]*\\)\\s*\\\x7b\\s*\\\x7d",
       ["java", "kt", "js", "ts"], none⟩,
     ⟨.regex, "except(\\s+[A-Za-z_][\\w.]*)?(\\s+as\\s+\\w+)?\\s*:\\s*\\n\\s*pass\\b",
       ["py"], some "Exception swallowed with pass"⟩,
     ⟨.ast, "CatchClause[body.statements.size == 0]",
       [], none⟩]
  quickFix :=
    some ⟨.suggest, "Log the exception or handle it explicitly",
      none⟩
  enabled := true
  custom := false

/-- Credentials, API keys or tokens are hardcoded in source code. -/
def hardcodedSecrets : Rule where
  id := "SEC-001"
  name := "Hardcoded Secrets"
  description := "Credentials, API keys or tokens are hardcoded in source code."
  severity := .critical
  category := .secrets
  compliance :=
    [⟨.pciDss, "8.2.1", "Render authentication credentials unreadable during storage"⟩,
     ⟨.soc2, "CC6.1", "Logical access security over protected information assets"⟩,
     ⟨.owasp, "A07:2021", "Identification and Authentication Failures"⟩,
     ⟨.cwe, "CWE-798", "Use of Hard-coded Credentials"⟩]
  patterns :=
    [⟨.regex, "(?i)(password|passwd|pwd|secret)\\s*[:=]\\s*[\"'][^\"']\x7b4,\x7d[\"']",
       [], some "Hardcoded password or secret assigned to a variable"⟩,
     ⟨.regex,
       "(?i)(api[_-]?key|access[_-]?token|auth[_-]?token)\\s*[:=]\\s*[\"']" ++
         "[A-Za-z0-9_\\-]\x7b16,\x7d[\"']",
       [], some "Hardcoded API key or access token"⟩,
     ⟨.regex, "\\bAKIA[0-9A-Z]\x7b16\x7d\\b",
       [], some "AWS access key id in source"⟩,
     ⟨.regex, "-----BEGIN\\s+(RSA\\s+|DSA\\s+|EC\\s+|OPENSSH\\s+)?PRIVATE\\s+KEY-----",
       [], some "Private key block embedded in source"⟩]
  quickFix :=
    some ⟨.suggest, "Load the secret from an environment variable or a secrets manager",
      none⟩
  enabled := true
  custom := false

/-- Untrusted data deserialized with an unsafe deserializer. -/
def insecureDeserialization : Rule where
  id := "SEC-008"
  name := "Insecure Deserialization"
  description := "Untrusted data deserialized with an unsafe deserializer."
  severity := .high
  category := .security
  compliance :=
    [⟨.owasp, "A08:2021", "Software and Data Integrity Failures"⟩,
     ⟨.cwe, "CWE-502", "Deserialization of Untrusted Data"⟩,
     ⟨.nist, "SI-10", "Information Input Validation"⟩]
  patterns :=
    [⟨.regex, "\\bnew\\s+ObjectInputStream\\(",
       ["java", "kt"], none⟩,
     ⟨.regex, "\\bpickle\\.loads?\\(",
       ["py"], none⟩,
     ⟨.regex, "\\byaml\\.load\\((?![^)]*Loader\\s*=\\s*yaml\\.SafeLoader)[^)]*\\)",
       ["py"], some "yaml.load without SafeLoader"⟩]
  quickFix :=
    some ⟨.suggest, "Use a safe, schema-validated data format such as JSON",
      none⟩
  enabled := true
  custom := false

/-- Cleartext HTTP URL used for a remote endpoint. -/
def insecureHttp : Rule where
  id := "SEC-004"
  name := "Insecure HTTP"
  description := "Cleartext HTTP URL used for a remote endpoint."
  severity := .medium
  category := .dataSecurity
  compliance :=
    [⟨.pciDss, "4.2.1", "Strong cryptography protects data in transit"⟩,
     ⟨.owasp, "A02:2021", "Cryptographic Failures"⟩,
     ⟨.cwe, "CWE-319", "Cleartext Transmission of Sensitive Information"⟩,
     ⟨.gdpr, "Art.32", "Security of processing"⟩]
  patterns :=
    [⟨.regex, "[\"']http://(?!localhost|127\\.0\\.0\\.1|0\\.0\\.0\\.0)[^\"'\\s]+[\"']",
       [], none⟩]
  quickFix :=
    some ⟨.replace, "Use HTTPS",
      some "https://"⟩
  enabled := true
  custom := false

/-- Endpoint explicitly allows unauthenticated access. -/
def missingAuth : Rule where
  id := "SEC-009"
  name := "Missing Authorization"
  description := "Endpoint explicitly allows unauthenticated access."
  severity := .medium
  category := .authorization
  compliance :=
    [⟨.owasp, "A01:2021", "Broken Access Control"⟩,
     ⟨.cwe, "CWE-862", "Missing Authorization"⟩,
     ⟨.soc2, "CC6.1", "Logical access security over protected information assets"⟩,
     ⟨.hipaa, "164.312(d)", "Person or entity authentication"⟩]
  patterns :=
    [⟨.regex, "@PermitAll\\b",
       ["java", "kt"], none⟩,
     ⟨.regex, "\\.permitAll\\(\\)",
       ["java", "kt"], none⟩,
     ⟨.regex, "@csrf_exempt\\b",
       ["py"], some "View exempted from CSRF protection"⟩,
     ⟨.regex, "permission_classes\\s*=\\s*\\[\\s*AllowAny\\s*\\]",
       ["py"], none⟩]
  quickFix :=
    some ⟨.suggest, "Require authentication on the endpoint",
      none⟩
  enabled := true
  custom := false

/-- File path built from request input without normalization. -/
def pathTraversal : Rule where
  id := "SEC-006"
  name := "Path Traversal"
  description := "File path built from request input without normalization."
  severity := .high
  category := .security
  compliance :=
    [⟨.owasp, "A01:2021", "Broken Access Control"⟩,
     ⟨.cwe, "CWE-22", "Improper Limitation of a Pathname to a Restricted Directory"⟩]
  patterns :=
    [⟨.regex, "new\\s+File\\(\\s*[^)]*request\\.getParameter\\(",
       ["java", "kt"], none⟩,
     ⟨.regex, "\\bopen\\(\\s*[^)]*request\\.(args|form|GET|POST|values)",
       ["py"], none⟩,
     ⟨.regex, "(readFile|readFileSync|createReadStream)\\(\\s*[^)]*req\\.(query|params|body)",
       ["js", "ts"], none⟩,
     ⟨.regex, "\\.\\./\\.\\./",
       [], some "Relative path traversal sequence"⟩]
  quickFix :=
    some ⟨.suggest, "Canonicalize the path and verify it stays under the allowed base directory",
      none⟩
  enabled := true
  custom := false

/-- SQL query built by string concatenation or interpolation with untrusted input. -/
def sqlInjection : Rule where
  id := "SEC-002"
  name := "SQL Injection"
  description := "SQL query built by string concatenation or interpolation with untrusted input."
  severity := .critical
  category := .injection
  compliance :=
    [⟨.owasp, "A03:2021", "Injection"⟩,
     ⟨.cwe, "CWE-89", "Improper Neutralization of Special Elements used in an SQL Command"⟩,
     ⟨.pciDss, "6.2.4", "Software engineering techniques prevent common attacks"⟩]
  patterns :=
    [⟨.regex,
       "(?i)(execute|executeQuery|executeUpdate|query|raw)\\s*\\(\\s*[\"']" ++
         "(SELECT|INSERT|UPDATE|DELETE)\\b[^\"']*[\"']\\s*\\+",
       [], some "SQL statement concatenated with a variable"⟩,
     ⟨.regex, "(?i)(execute|query)\\s*\\(\\s*f[\"'](SELECT|INSERT|UPDATE|DELETE)\\b[^\"']*\\\x7b",
       ["py"], some "SQL statement built with an f-string"⟩,
     ⟨.regex,
       "(?i)(execute|query)\\s*\\(\\s*[\"'](SELECT|INSERT|UPDATE|DELETE)" ++
         "\\b[^\"']*%s?[\"']\\s*%",
       ["py"], some "SQL statement built with % formatting"⟩,
     ⟨.taint, "request-parameter -> sql-sink",
       [], none⟩]
  quickFix :=
    some ⟨.refactor, "Use parameterized queries or prepared statements",
      none⟩
  enabled := true
  custom := false

/-- Outbound request URL taken from user-controlled input. -/
def requestForgery : Rule where
  id := "SEC-007"
  name := "Server-Side Request Forgery"
  description := "Outbound request URL taken from user-controlled input."
  severity := .high
  category := .apiSecurity
  compliance :=
    [⟨.owasp, "A10:2021", "Server-Side Request Forgery"⟩,
     ⟨.cwe, "CWE-918", "Server-Side Request Forgery"⟩]
  patterns :=
    [⟨.regex,
       "\\brequests\\.(get|post|put|delete|head)\\(\\s*" ++
         "request\\.(args|form|GET|POST|values)",
       ["py"], none⟩,
     ⟨.regex, "\\bnew\\s+URL\\(\\s*request\\.getParameter\\(",
       ["java", "kt"], none⟩,
     ⟨.regex, "\\b(fetch|axios\\.get|axios\\.post|http\\.get)\\(\\s*req\\.(query|params|body)",
       ["js", "ts"], none⟩,
     ⟨.semantic, "user-input flows into outbound request url",
       [], none⟩]
  quickFix :=
    some ⟨.suggest, "Validate outbound URLs against an allowlist of hosts",
      none⟩
  enabled := true
  custom := false

/-- Use of a broken or weak cryptographic algorithm. -/
def weakCrypto : Rule where
  id := "SEC-003"
  name := "Weak Cryptography"
  description := "Use of a broken or weak cryptographic algorithm."
  severity := .high
  category := .cryptography
  compliance :=
    [⟨.owasp, "A02:2021", "Cryptographic Failures"⟩,
     ⟨.cwe, "CWE-327", "Use of a Broken or Risky Cryptographic Algorithm"⟩,
     ⟨.pciDss, "4.2.1", "Strong cryptography protects data in transit"⟩,
     ⟨.hipaa, "164.312(e)(2)(ii)", "Encryption of electronic protected health information"⟩]
  patterns :=
    [⟨.regex, "MessageDigest\\.getInstance\\(\\s*\"(MD5|SHA-?1)\"\\s*\\)",
       ["java", "kt"], none⟩,
     ⟨.regex, "Cipher\\.getInstance\\(\\s*\"(DES|DESede|RC4|[^\"]*/ECB/[^\"]*)\"",
       ["java", "kt"], some "Weak cipher or ECB mode"⟩,
     ⟨.regex, "\\bhashlib\\.(md5|sha1)\\s*\\(",
       ["py"], none⟩,
     ⟨.regex, "createHash\\(\\s*[\"'](md5|sha1)[\"']\\s*\\)",
       ["js", "ts"], none⟩]
  quickFix :=
    some ⟨.replace, "Use SHA-256 or stronger",
      some "SHA-256"⟩
  enabled := true
  custom := false

/-- The rules with the names of their files. -/
def rules : List (String × Rule) :=
  [("command-injection.yaml", commandInjection),
   ("empty-catch.yaml", emptyCatch),
   ("hardcoded-secrets.yaml", hardcodedSecrets),
   ("insecure-deserialization.yaml", insecureDeserialization),
   ("insecure-http.yaml", insecureHttp),
   ("missing-auth.yaml", missingAuth),
   ("path-traversal.yaml", pathTraversal),
   ("sql-injection.yaml", sqlInjection),
   ("ssrf.yaml", requestForgery),
   ("weak-crypto.yaml", weakCrypto)]

end Builtin

end CodeAudit
