import Blueprint.Terraform.KeyManagement

/-!
# Secrets managers

One section of all secrets managers, each with its authorization to read keys.
-/

namespace Blueprint.Terraform.SecretsManager

/-- The authorization of a secrets manager to read keys, if it uses any. -/
def authorization (t : Tree) (manager : Record) : List Block :=
  match manager.filled? "kms" with
  | none => []
  | some keyManagement =>
      let label := labelOf [manager.label, "secrets manager to", keyManagement, "kms policy"]
      [KeyManagement.authorization t label "secrets-manager"
        (.output (.secretsManager manager.label) "guid") keyManagement]

def block (t : Tree) (manager : Record) : Block :=
  let key := t.encryptionKeyCrn (manager.filled? "kms") (manager.filled? "encryption_key")
  .defining (.secretsManager manager.label) [
    .attr "name" (variableName manager.label),
    .attr "location" regionVariable,
    .attr "plan" (.text (manager.textOr "plan" "standard")),
    .attr "service" (.text "secrets-manager"),
    .attr "resource_group_id" (t.resourceGroupOf manager),
    .map "parameters" [("kms_key", key)],
    .attr "tags" t.tags,
    .timeouts [("create", "1h"), ("delete", "1h")]]

def blocks (t : Tree) (manager : Record) : List Block :=
  authorization t manager ++ [block t manager]

def sections (t : Tree) : List Section :=
  Section.ofBlocks "Secrets Manager" ((t.topLevel .secretsManager).flatMap (blocks t))

end Blueprint.Terraform.SecretsManager
