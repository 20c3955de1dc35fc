import Cep18.Proof.Allowances
import Cep18.Proof.Authority
import Cep18.Proof.Badges
import Cep18.Proof.Batches
import Cep18.Proof.Bystanders
import Cep18.Proof.Circles
import Cep18.Proof.Client
import Cep18.Proof.ClientInstalls
import Cep18.Proof.ClientSessions
import Cep18.Proof.Codec
import Cep18.Proof.Decoding
import Cep18.Proof.EventStream
import Cep18.Proof.Failures
import Cep18.Proof.Interface
import Cep18.Proof.ItemKeys
import Cep18.Proof.Modalities
import Cep18.Proof.Names
import Cep18.Proof.Orders
import Cep18.Proof.Refusals
import Cep18.Proof.Security
import Cep18.Proof.Supply
import Cep18.Proof.Upgrades
import Cep18.Proof.Withdrawals
