import Blueprint.Terraform.Section
import Blueprint.Tree

/-!
# Account settings

The settings of the account, if they are managed here at all.
-/

namespace Blueprint.Terraform.AccountSettings

/-- Settings that are written if they are filled. -/
def settings : List String := [
  "mfa", "allowed_ip_addresses", "include_history", "if_match", "max_sessions_per_identity",
  "restrict_create_service_id", "restrict_create_platform_apikey",
  "session_expiration_in_seconds", "session_invalidation_in_seconds"]

def blocks (account : Record) : List Block :=
  if account.flag "enable" then [
    .defining (.resource "ibm_iam_account_settings" "iam_account_settings")
      (settings.flatMap (Item.ofFilled account))]
  else []

def sections (t : Tree) : List Section :=
  Section.ofBlocks "IAM Account Settings"
    ((t.single? .accountSettings).toList.flatMap blocks)

end Blueprint.Terraform.AccountSettings
