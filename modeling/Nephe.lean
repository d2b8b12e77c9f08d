import Nephe.Basic
import Nephe.CloudResource
import Nephe.CloudCommon
import Nephe.Plugins.AccountMgmt
import Nephe.Plugins.Azure.Compute
import Nephe.Plugins.Azure.FilterStore
import Nephe.Plugins.Azure.Inventory
import Nephe.Plugins.Azure.Plugin
