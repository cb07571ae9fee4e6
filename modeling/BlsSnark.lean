import BlsSnark.Pairing
import BlsSnark.Circuit
import BlsSnark.Backend
import BlsSnark.Signers
import BlsSnark.Bls
import BlsSnark.Verify
import BlsSnark.Epoch
import BlsSnark.Transition
import BlsSnark.Chain
import BlsSnark.LightClient
