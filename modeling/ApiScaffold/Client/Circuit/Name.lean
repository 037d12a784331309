import ApiScaffold.Digest.Sha256

/-!
# Names of circuits

* `circuitName service baseUrl`: the service and twelve digits of the digest of the URL, so that
  every service at every place has a circuit of its own.
-/

namespace ApiScaffold.Client

/-- How many digits of the digest are kept. -/
def circuitDigits : Nat := 12

/-- The name of the circuit of a service at a URL. -/
def circuitName (service baseUrl : String) : String :=
  let digest := (Digest.Sha256.hexDigest (Text.utf8 baseUrl)).toList
  s!"{service}-" ++ String.ofList (digest.take circuitDigits)

end ApiScaffold.Client
